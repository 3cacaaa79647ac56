import NotebookKernel.Bridge
import NotebookKernel.Proofs.Bridge.RoundTrip
import NotebookKernel.Proofs.Wire.RequestLine

/-!
Requests one after the other. Whatever their codes are, the stream is cut at its line feeds
into exactly these requests again, so no two lists of codes are sent as the same octets. A
request can always be written.
-/

namespace NotebookKernel

namespace Request

/-- One request line after the other. -/
def stream (requests : List Request) : List Char := requests.flatMap (·.toLine.toList)

theorem stream_splitOn (requests : List Request) :
    (stream requests).splitOn '\n' = requests.map text ++ [[]] := by
  simp only [stream, toLine_toList]
  exact Text.splitOn_lines text text_printable requests

theorem text_injective : Function.Injective text := by
  intro request other same
  have read := (readText_text request).symm.trans (congrArg readText same)
  rw [readText_text] at read
  exact Except.ok.inj read

/-- Different requests are sent as different octets. -/
theorem stream_inj {requests others : List Request} :
    Text.Utf8.encode (stream others) = Text.Utf8.encode (stream requests) ↔ others = requests := by
  rw [Text.Utf8.encode_inj]
  refine ⟨fun same => ?_, congrArg stream⟩
  have pieces := congrArg (List.splitOn '\n') same
  rw [stream_splitOn, stream_splitOn] at pieces
  exact (List.map_inj_right text_injective).mp (List.append_cancel_right pieces)

end Request

/-- A call does not come to the failure that its request could not be written. -/
def Written {α : Type} : Progress (Except TransportError α) → Prop
  | .done (.error (.encode _)) => False
  | _ => True

namespace JsonLine

variable {η : Type}

theorem understand_written (line : String) : Written (.done (understand line)) := by
  unfold understand
  cases Response.ofLine line <;> trivial

theorem receive_written (b : JsonLine η) (pipes : Pipes) : Written (b.receive pipes).2 := by
  unfold receive
  split
  · trivial
  · trivial
  · split
    · trivial
    · exact understand_written _

theorem hear_written (b : JsonLine η) (heard : Wake) : Written (b.hear heard).2 := by
  unfold hear
  split
  · trivial
  · trivial
  · split
    · trivial
    · split <;> trivial
    · exact b.receive_written _
    · split
      · trivial
      · exact b.receive_written _

theorem answer_written {came : JsonLine η × Progress (Except TransportError Response)}
    (written : Written came.2) : Written (answer came).2 := by
  obtain ⟨b, _ | (failure | response)⟩ := came
  · trivial
  · cases failure <;> exact written
  · trivial

theorem request_written [Host η] (b : JsonLine η) (request : Request) :
    Written (b.request request).2 := by
  unfold JsonLine.request
  split
  · trivial
  · split <;> trivial

end JsonLine

namespace OneShot

variable {η : Type} [Host η]

theorem begin_written (b : OneShot η) (c : Call) : Written (b.begin c).2 := by
  cases c with
  | forward => trivial
  | evaluate snapshot =>
    simp only [begin]
    split <;> trivial

theorem resume_written (b : OneShot η) (heard : Wake) : Written (b.resume heard).2 := by
  unfold resume
  split
  · trivial
  · cases heard with
    | accepted | arrived | ended | failed => trivial
    | deadline =>
      simp only
      split <;> trivial

end OneShot

namespace Bridge

variable {η : Type} [Host η]

theorem begin_written (b : Bridge η) (c : Call) : Written (Transport.begin b c).2 := by
  cases b with
  | oneShot b => exact b.begin_written c
  | jsonLine b => exact JsonLine.answer_written (b.request_written (JsonLine.requestOf c))

theorem resume_written (b : Bridge η) (heard : Wake) : Written (Transport.resume b heard).2 := by
  cases b with
  | oneShot b => exact b.resume_written heard
  | jsonLine b => exact JsonLine.answer_written (b.hear_written heard)

theorem cancel_written (b : Bridge η) : Written (.done (Transport.cancel b).2) := by
  cases b with
  | oneShot b => trivial
  | jsonLine b =>
    simp only [Transport.cancel, update, JsonLine.cancel]
    split <;> trivial

end Bridge

namespace Request

open Text

/-- For whatever codes: each line has its only line feed at its end and no other control
character; the stream is cut into the requests again, in their order, with nothing left; other
codes are other octets; and no call of a bridge fails because its request could not be
written. -/
theorem stream_read_back {η : Type} [Host η] (codes : List String) :
    let requests := codes.map mk
    (∀ request ∈ requests, IsLine request.toLine.toList ∧
      ∀ c ∈ request.toLine.toList, c < ' ' → c = '\n') ∧
    (∃ pieces, (stream requests).splitOn '\n' = pieces ++ [[]] ∧
      pieces.map (fun piece => ofText (.ofList piece)) = requests.map .ok) ∧
    (∀ others : List String,
      Utf8.encode (stream (others.map mk)) = Utf8.encode (stream requests) ↔ others = codes) ∧
    ∀ (b : Bridge η) (c : Call) (heard : Wake),
      Written (Transport.begin b c).2 ∧ Written (Transport.resume b heard).2 ∧
        Written (.done (Transport.cancel b).2) := by
  intro requests
  refine ⟨fun request _ => ?_, ⟨requests.map text, stream_splitOn requests, ?_⟩, fun others => ?_,
    fun b c heard => ⟨b.begin_written c, b.resume_written heard, b.cancel_written⟩⟩
  · rw [toLine_toList]
    exact ⟨isLine_feed request.text_printable, control_feed request.text_printable⟩
  · simp only [List.map_map, Function.comp_def, ofText_text]
  · rw [stream_inj]
    exact List.map_inj_right fun code other same => congrArg Request.code same

/-- A code of two lines with characters of every kind, then an empty one. -/
theorem stream_read_back_controls :
    let first : Request := ⟨"let s = \"\\\x00\x1b\";\n\r\t\u2028😀"⟩
    (∀ c ∈ first.toLine.toList, c < ' ' → c = '\n') ∧
      ∃ pieces, (stream [first, ⟨""⟩]).splitOn '\n' = pieces ++ [[]] ∧
        pieces.map (fun piece => ofText (.ofList piece)) = [.ok first, .ok ⟨""⟩] := by
  intro first
  obtain ⟨lines, pieces, -, -⟩ := stream_read_back (η := Unit) [first.code, ""]
  exact ⟨(lines first (by simp)).2, pieces⟩

end Request

end NotebookKernel
