import NotebookKernel.Json.Decoder
import NotebookKernel.Json.Printer
import NotebookKernel.Text.Blank

/-!
A response of the interpreter is one line of JSON. An object with the key `Eval`
brings a value to show; all else only acknowledges the request.
-/

namespace NotebookKernel

/-- A value under its media type. -/
structure EvalOutput where
  mimeType : String
  value : String
  deriving DecidableEq, Repr

inductive Response where
  | eval (output : EvalOutput)
  | silent
  deriving DecidableEq, Repr

open Json

namespace EvalOutput

structure Draft where
  mimeType : Option String := none
  value : Option String := none

def record : Record Draft EvalOutput where
  name := "struct EvalOutput"
  fields :=
    [field "mime_type" stringDecoder (·.mimeType) (fun d s => { d with mimeType := some s }) false,
      field "value" stringDecoder (·.value) (fun d s => { d with value := some s }) false]
  empty := {}
  finish draft :=
    match need "mime_type" draft.mimeType, need "value" draft.value with
    | .error m, _ => .error m
    | _, .error m => .error m
    | .ok mimeType, .ok value => .ok ⟨mimeType, value⟩

def toJson (output : EvalOutput) : Json :=
  .obj [("mime_type", .str output.mimeType), ("value", .str output.value)]

end EvalOutput

namespace Response

def ofJson (value : Json) : Except Mismatch Response :=
  match value.get? "Eval" with
  | some payload => (EvalOutput.record.fromValue payload).map .eval
  | none => .ok .silent

/-- Blanks around the line do not count; places refer to what is left. -/
def ofLine (line : String) : Except Error Response :=
  let text := Text.trim line.toList
  match readText text with
  | .error stop => .error (.ofStop text stop)
  | .ok value => (ofJson value).mapError .ofMismatch

def toJson : Response → Json
  | .eval output => .obj [("Eval", output.toJson)]
  | .silent => .obj []

def toLine (response : Response) : String :=
  response.toJson.line

end Response

end NotebookKernel
