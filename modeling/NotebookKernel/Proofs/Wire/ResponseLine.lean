import NotebookKernel.Proofs.Bridge.RoundTrip
import NotebookKernel.Proofs.Json.Compact

/-!
The response line, and responses one after the other. A line is read as the response it was
written for, whatever its media type and its value hold: they are quoted, so that neither the
cutting of the stream nor the trimming of a line reaches them.
-/

namespace NotebookKernel

open Json

namespace Response

def text (response : Response) : List Char := compact response.toJson

theorem plain (response : Response) (depth : Nat) : Plain (depth + 2) response.toJson := by
  cases response with
  | silent => exact .obj _ _ rfl nofun
  | eval output =>
    have ordered : canonical [("mime_type", .str output.mimeType), ("value", .str output.value)] =
        [("mime_type", .str output.mimeType), ("value", .str output.value)] := by
      have greater : ¬ "value" < "mime_type" := by decide
      have other : ¬ "value" = "mime_type" := by decide
      simp only [canonical, List.foldl_cons, List.foldl_nil, Json.insert, if_neg greater,
        if_neg other]
    refine .obj _ _ rfl (List.forall_mem_singleton.mpr (.obj _ _ ordered ?_))
    rintro member inside
    simp only [List.mem_cons, List.not_mem_nil, or_false] at inside
    rcases inside with rfl | rfl
    · exact .str depth output.mimeType
    · exact .str depth output.value

theorem text_printable (response : Response) : ∀ c ∈ response.text, ¬ c < ' ' :=
  (response.plain 0).printable

theorem toLine_toList (response : Response) : response.toLine.toList = response.text ++ ['\n'] :=
  String.toList_ofList

theorem encode_toLine (response : Response) :
    Text.Utf8.encode response.toLine.toList = Text.Utf8.encode response.text ++ [10] := by
  rw [toLine_toList, Text.Utf8.encode_feed]

theorem feed_not_mem_text (response : Response) : 10 ∉ Text.Utf8.encode response.text := by
  rw [Text.Utf8.feed_mem_encode]
  exact Text.feed_not_mem response.text_printable

theorem trim_toLine (response : Response) : Text.trim response.toLine.toList = response.text := by
  rw [toLine_toList]
  exact (response.plain 0).trim_line

theorem ofJson_toJson (response : Response) : ofJson response.toJson = .ok response := by
  cases response <;> rfl

/-- A line is read as the response it was written for. -/
theorem ofLine_toLine (response : Response) : ofLine response.toLine = .ok response := by
  have read : readText response.text = .ok response.toJson :=
    (response.plain 125).readText_compact
  simp only [ofLine, trim_toLine, read, ofJson_toJson]
  rfl

/-- One response line after the other. -/
def stream (responses : List Response) : List Char := responses.flatMap (·.toLine.toList)

theorem stream_splitOn (responses : List Response) :
    (stream responses).splitOn '\n' = responses.map text ++ [[]] := by
  simp only [stream, toLine_toList]
  exact Text.splitOn_lines text text_printable responses

/-- The octets of the stream, as the bridge takes them line by line. -/
theorem stream_lines (responses : List Response) :
    Pipes.lines (Text.Utf8.encode (stream responses)) =
      responses.map fun response => Text.Utf8.encode response.toLine.toList := by
  have whole : ∀ line ∈ responses.map fun response => Text.Utf8.encode response.text, 10 ∉ line :=
    List.forall_mem_map.mpr fun response _ => response.feed_not_mem_text
  simp only [stream, toLine_toList]
  rw [Text.encode_lines, Pipes.lines_flatten _ whole, List.map_map]
  simp only [Function.comp_def, Text.Utf8.encode_feed]

open Text

/-- For whatever responses: each line has its only line feed at its end, and the trimming takes
nothing else of it; the stream is cut behind its line feeds into the responses again, in their
order, with nothing left; and so does the bridge that takes its octets. -/
theorem responses_read_back (responses : List Response) :
    (∀ response ∈ responses, IsLine response.toLine.toList ∧
      trim response.toLine.toList ++ ['\n'] = response.toLine.toList) ∧
    (∃ pieces, (stream responses).splitOn '\n' = pieces ++ [[]] ∧
      pieces.map (fun piece => ofLine (.ofList (piece ++ ['\n']))) = responses.map .ok) ∧
    (Pipes.lines (Utf8.encode (stream responses))).map
        (fun line => (Utf8.decode line).map JsonLine.reading) =
      responses.map fun response => .ok (.ok (some (.response response))) := by
  have again (response : Response) : String.ofList (response.text ++ ['\n']) = response.toLine := by
    rw [← toLine_toList, String.ofList_toList]
  refine ⟨fun response _ => ?_, ⟨responses.map text, stream_splitOn responses, ?_⟩, ?_⟩
  · rw [trim_toLine, ← toLine_toList]
    refine ⟨?_, rfl⟩
    rw [toLine_toList]
    exact isLine_feed response.text_printable
  · simp only [List.map_map, Function.comp_def, again, ofLine_toLine]
  · rw [stream_lines, List.map_map]
    refine List.map_congr_left fun response _ => ?_
    have read : (ofLine (.ofList response.toLine.toList)).toOption = some response := by
      rw [String.ofList_toList, ofLine_toLine]
      rfl
    simp only [Function.comp_apply, Utf8.decode_encode, Except.map,
      JsonLine.reading_response read]

/-- A value that looks like a response and has blanks at its ends, then a silent response. -/
theorem responses_read_back_blanks :
    let first : Response := .eval ⟨"", "\u2028 \x7b\"Eval\":null\x7d\n\x00\x0b"⟩
    IsLine first.toLine.toList ∧
      ∃ pieces, (stream [first, .silent]).splitOn '\n' = pieces ++ [[]] ∧
        pieces.map (fun piece => ofLine (.ofList (piece ++ ['\n']))) = [.ok first, .ok .silent] := by
  intro first
  obtain ⟨lines, pieces, -⟩ := responses_read_back [first, .silent]
  exact ⟨(lines first (by simp)).1, pieces⟩

end Response

end NotebookKernel
