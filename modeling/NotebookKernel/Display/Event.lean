import NotebookKernel.Wire.Response

/-!
What a cell shows: text on a stream, or a value under its media type. An answer
of the interpreter is translated into such events.
-/

namespace NotebookKernel

/-- What one exchange with the interpreter brings: all it printed, or one
response. -/
inductive RawResult where
  | text (text : String)
  | response (response : Response)
  deriving DecidableEq, Repr

inductive DisplayEvent where
  | stream (name text : String)
  | displayData (data metadata : List (String × Json))
  deriving Repr

namespace DisplayEvent

def stdout (text : String) : DisplayEvent := .stream "stdout" text

def value (mimeType value : String) : DisplayEvent := .displayData [(mimeType, .str value)] []

def kind : DisplayEvent → String
  | .stream _ _ => "stream"
  | .displayData _ _ => "display_data"

def toJson : DisplayEvent → Json
  | .stream name text => .obj [("name", .str name), ("text", .str text)]
  | .displayData data metadata => .obj [("metadata", .obj metadata), ("data", .obj data)]

/-- What a terminal shows: plain text if there is some, else the first value, and
only if that is a string. -/
def plainText? : DisplayEvent → Option String
  | .stream _ text => some text
  | .displayData data _ =>
    match (Json.find? "text/plain" data).or (data.head?.map (·.2)) with
    | some (.str s) => some s
    | _ => none

end DisplayEvent

/-- Printed text is one stream event; a value is one display event; an
acknowledgement shows nothing. -/
def RawResult.translate : RawResult → List DisplayEvent
  | .text printed => [.stdout printed]
  | .response (.eval output) => [.value output.mimeType output.value]
  | .response .silent => []

end NotebookKernel
