import NotebookKernel.Proofs.Json.Compact
import NotebookKernel.Proofs.Text.Lines
import NotebookKernel.Wire.Request

/-!
The request line. It holds one line feed, at its end, and no other control character; what
stands before it is read as the request. A stream of such lines is cut into them again.
-/

namespace NotebookKernel

open Json

namespace Json.Record

/-- An object with one known member is read to its closing brace. -/
theorem fromText_single {σ α : Type} (record : Record σ α) {rooms : Nat} {key : String}
    {f : Field σ} {name content rest : List Char} {draft : σ} {result : α}
    (named : string name = .ok (key, ':' :: content)) (known : record.field? key = some f)
    (unset : f.isSet record.empty = false)
    (value : f.fromText rooms record.empty content = .ok (draft, '}' :: rest))
    (finished : record.finish draft = .ok result) :
    record.fromText (rooms + 1) ('{' :: '"' :: name) = .ok (result, rest) := by
  have opens : skip ('{' :: '"' :: name) = '{' :: '"' :: name := rfl
  have member : nextKey true ('"' :: name) = .ok (some name) := rfl
  have ended : nextKey false ('}' :: rest) = .ok none := rfl
  have left : giveUp '}' ('}' :: rest) = rest := rfl
  have members : fromMembers record rooms (fuelFor ('"' :: name)) true record.empty ('"' :: name) =
      .ok (draft, '}' :: rest) := by
    simp only [fuelFor, fromMembers, member, named, known, unset, Bool.false_eq_true, if_false,
      colon_cons, value, ended]
  have brace : '{' ≠ '[' := by decide
  simp only [fromText, opens, if_neg brace, if_true, enter, members, left, finishAt, finished]
  rfl

end Json.Record

namespace Request

def text (request : Request) : List Char := compact request.toJson

theorem text_eq (request : Request) :
    request.text = '{' :: (quote "Execute" ++ ':' :: '{' ::
      (quote "code" ++ ':' :: (quote request.code ++ ['}', '}']))) := by
  simp only [text, toJson, compact, compactMembers, List.cons_append, List.append_assoc,
    List.nil_append]

theorem toLine_toList (request : Request) : request.toLine.toList = request.text ++ ['\n'] :=
  String.toList_ofList

theorem fromText_code (code : String) (rooms : Nat) (rest : List Char) :
    record.fromText (rooms + 1) ('{' :: (quote "code" ++ ':' :: (quote code ++ '}' :: rest))) =
      .ok (⟨code⟩, rest) := by
  obtain ⟨body, quoted, value⟩ := quote_read code ('}' :: rest)
  obtain ⟨name, named, key⟩ := quote_read "code" (':' :: '"' :: body)
  rw [quoted, named]
  have decodes : stringDecoder.fromText rooms ('"' :: body) = .ok (code, '}' :: rest) := value
  have reads : (field "code" stringDecoder id (fun _ code => some code) false).fromText rooms none
      ('"' :: body) = .ok (some code, '}' :: rest) := by
    simp only [field, decodes]
    rfl
  have known : record.field? "code" =
      some (field "code" stringDecoder id (fun _ code => some code) false) := by
    simp [Record.field?, record, field]
  exact record.fromText_single key known rfl reads rfl

/-- What stands on the line is read as the request. -/
theorem readText_text (request : Request) : readText request.text = .ok request := by
  obtain ⟨code⟩ := request
  obtain ⟨name, named, key⟩ := quote_read "Execute" (':' :: '{' ::
      (quote "code" ++ ':' :: (quote code ++ ['}', '}'])))
  have opens : skip ('{' :: '"' :: name) = '{' :: '"' :: name := rfl
  have tag : tagFrom [("Execute", ())] ('"' :: name) = .ok ((), ':' :: '{' ::
      (quote "code" ++ ':' :: (quote code ++ ['}', '}']))) := by
    have text : textFrom "variant identifier" ('"' :: name) = string name := rfl
    have execute : variant [("Execute", ())] "Execute" = .ok () := rfl
    have here : skip ('"' :: name) = '"' :: name := rfl
    simp only [tagFrom, here, if_true, variantFrom, text, key, execute]
  have closes : skip ['}'] = ['}'] := rfl
  have brace : '{' ≠ '"' := by decide
  rw [text_eq, named]
  simp only [readText, opens, if_neg brace, if_true, enter, maxNesting, taggedFrom, tag, colon_cons,
    fromText_code, closes]
  rfl

theorem ofText_text (request : Request) : ofText (.ofList request.text) = .ok request := by
  rw [ofText, String.toList_ofList, readText_text]
  rfl

theorem plain (request : Request) (depth : Nat) : Plain (depth + 2) request.toJson :=
  .obj _ _ rfl <| List.forall_mem_singleton.mpr <|
    .obj _ _ rfl <| List.forall_mem_singleton.mpr <| .str depth request.code

theorem text_printable (request : Request) : ∀ c ∈ request.text, ¬ c < ' ' :=
  (request.plain 0).printable

/-- The octets of the line but its last. -/
def octets (request : Request) : Text.Bytes := Text.Utf8.encode request.text

theorem encode_toLine (request : Request) :
    Text.Utf8.encode request.toLine.toList = request.octets ++ [10] := by
  rw [toLine_toList, Text.Utf8.encode_feed, octets]

theorem feed_not_mem_octets (request : Request) : 10 ∉ request.octets := by
  rw [octets, Text.Utf8.feed_mem_encode]
  exact fun member => request.text_printable '\n' member (by decide)

/-- The request that these octets are, if they are one. -/
def ofOctets (bytes : Text.Bytes) : Option Request :=
  match Text.Utf8.decode bytes with
  | .error _ => none
  | .ok cs => (ofText (.ofList cs)).toOption

theorem ofOctets_octets (request : Request) : ofOctets request.octets = some request := by
  simp only [ofOctets, octets, Text.Utf8.decode_encode, ofText_text]
  rfl

/-- A stream of request lines is cut into the requests again. -/
theorem lines_ofOctets (requests : List Request) :
    (Text.lines (requests.map fun request => request.octets ++ [10]).flatten).map ofOctets =
      requests.map some := by
  have cut := Text.lines_flatten (requests.map octets) (by simp [feed_not_mem_octets])
  rw [List.map_map] at cut
  rw [show (fun request : Request => request.octets ++ [10]) = (· ++ [10]) ∘ octets from rfl, cut,
    List.map_map]
  refine List.map_congr_left fun request _ => ?_
  rw [Function.comp_apply, ofOctets_octets]

end Request

end NotebookKernel
