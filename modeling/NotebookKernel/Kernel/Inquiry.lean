import NotebookKernel.Json.Decoder

/-!
What a notebook sends to the kernel. The content of a message must have the shape
that its type asks for, also if the kernel has no use for it.
-/

namespace NotebookKernel

open Json

/-- A message as it comes in. -/
structure Message where
  id : String
  type : String
  content : Json

inductive Inquiry where
  | execute (code : String) (silent : Bool)
  | kernelInfo
  | isComplete
  | shutdown (restart : Bool)
  | interrupt
  /-- Anything that the kernel passes over. -/
  | unsupported
  deriving DecidableEq, Repr

namespace Inquiry

structure ExecuteDraft where
  code : Option String := none
  silent : Option Bool := none
  storeHistory : Option Bool := none
  userExpressions : Option Unit := none
  allowInput : Option Bool := none
  stopOnError : Option Bool := none

/-- Fits whatever `inner` fits. -/
def fits {α : Type} (inner : Decoder α) : Decoder Unit := inner.map fun _ => ()

def strings : Decoder (List (String × String)) where
  fromText rooms cs :=
    match readValue (fuelFor cs) rooms cs with
    | .error stop => .error stop
    | .ok (value, rest) =>
      match mapOf stringDecoder.fromValue value with
      | .ok entries => .ok (entries, rest)
      | .error m => .error (.behind (.mismatch m) rest)
  fromValue := mapOf stringDecoder.fromValue

def execution : Record ExecuteDraft Inquiry where
  name := "struct ExecuteRequest"
  fields :=
    [field "code" stringDecoder (·.code) (fun d a => { d with code := some a }) false,
      field "silent" boolean (·.silent) (fun d a => { d with silent := some a }) false,
      field "store_history" boolean (·.storeHistory)
        (fun d a => { d with storeHistory := some a }) false,
      field "user_expressions" (fits (nullable strings)) (·.userExpressions)
        (fun d a => { d with userExpressions := some a }) false,
      field "allow_stdin" boolean (·.allowInput) (fun d a => { d with allowInput := some a }) true,
      field "stop_on_error" boolean (·.stopOnError)
        (fun d a => { d with stopOnError := some a }) true]
  empty := {}
  finish d := do
    let code ← need "code" d.code
    let silent ← need "silent" d.silent
    let _ ← need "store_history" d.storeHistory
    return .execute code silent

def shutdownRecord : Record (Option Bool) Inquiry where
  name := "struct ShutdownRequest"
  fields := [field "restart" boolean id (fun _ restart => some restart) false]
  empty := none
  finish draft := (need "restart" draft).map .shutdown

/-- What one field of a content must be. -/
structure Demand where
  name : String
  decoder : Decoder Unit
  required : Bool := true

/-- A content of which only the shape counts. -/
def shape (name : String) (demands : List Demand) (result : Inquiry) :
    Record (List String) Inquiry where
  name := name
  fields := demands.map fun demand =>
    { name := demand.name
      isSet := (·.contains demand.name)
      fromText := fun rooms seen cs =>
        (demand.decoder.fromText rooms cs).map fun (_, rest) => (demand.name :: seen, rest)
      fromValue := fun seen value =>
        (demand.decoder.fromValue value).map fun _ => demand.name :: seen
      mayEnd := false }
  empty := []
  finish seen :=
    match demands.find? fun demand => demand.required && !seen.contains demand.name with
    | some demand => .error (.missingField demand.name)
    | none => .ok result

def text : Decoder Unit := fits stringDecoder

def flag : Decoder Unit := fits boolean

def position : Decoder Unit := fits (integerAs "usize" 0 (Int.pow 2 64))

def count : Decoder Unit := fits (integerAs "i32" (-Int.pow 2 31) (Int.pow 2 31))

/-- Any value. -/
def anything : Decoder Unit where
  fromText _ cs := (skim cs).map fun rest => ((), rest)
  fromValue _ := .ok ()

/-- Types of messages that the kernel passes over, with the shape of their
content. -/
def passedOver : List (String × Record (List String) Inquiry) :=
  [("complete_request",
      shape "struct CompleteRequest" [⟨"code", text, true⟩, ⟨"cursor_pos", position, true⟩]
        .unsupported),
    ("inspect_request",
      shape "struct InspectRequest"
        [⟨"code", text, true⟩, ⟨"cursor_pos", position, true⟩,
          ⟨"detail_level", fits (nullable position), false⟩]
        .unsupported),
    ("comm_info_request",
      shape "struct CommInfoRequest" [⟨"target_name", fits (nullable text), false⟩] .unsupported),
    ("comm_open",
      shape "struct CommOpen"
        [⟨"comm_id", text, true⟩, ⟨"target_name", text, true⟩, ⟨"data", anything, true⟩]
        .unsupported),
    ("comm_msg",
      shape "struct CommMsg" [⟨"comm_id", text, true⟩, ⟨"data", anything, true⟩] .unsupported),
    ("comm_close",
      shape "struct CommClose" [⟨"comm_id", text, true⟩, ⟨"data", anything, true⟩] .unsupported),
    ("clear_output", shape "struct ClearOutput" [⟨"wait", flag, true⟩] .unsupported),
    ("status", shape "struct Status" [⟨"execution_state", text, true⟩] .unsupported),
    ("input_request",
      shape "struct InputRequest" [⟨"prompt", text, true⟩, ⟨"password", flag, true⟩] .unsupported),
    ("input_reply", shape "struct InputReply" [⟨"value", text, true⟩] .unsupported)]

/-- The ways to ask for the history, with what each needs. -/
def historyShapes : List (String × Record (List String) Inquiry) :=
  let output : Demand := ⟨"output", flag, true⟩
  let raw : Demand := ⟨"raw", flag, true⟩
  [("range",
      shape "struct variant HistoryRequest::Range"
        [⟨"session", fits (nullable count), false⟩, ⟨"start", count, true⟩, ⟨"stop", count, true⟩,
          output, raw]
        .unsupported),
    ("tail",
      shape "struct variant HistoryRequest::Tail" [⟨"n", count, true⟩, output, raw] .unsupported),
    ("search",
      shape "struct variant HistoryRequest::Search"
        [⟨"pattern", text, true⟩, ⟨"unique", flag, true⟩, output, raw, ⟨"n", count, true⟩]
        .unsupported)]

def history (content : Json) : Except Mismatch Inquiry :=
  match content with
  | .obj members =>
    match find? "hist_access_type" members with
    | none => .error (.missingField "hist_access_type")
    | some (.str name) =>
      match variant historyShapes name with
      | .error m => .error m
      | .ok shape => shape.fromValue (.obj members)
    | some value => .error (.invalidType (.ofJson value) "variant identifier")
  | value => .error (.invalidType (.ofJson value) "internally tagged enum HistoryRequest")

/-- An empty shape: an object with whatever fields. -/
def plain (name : String) (result : Inquiry) (content : Json) : Except Mismatch Inquiry :=
  (shape name [] result).fromValue content

def ofContent (type : String) (content : Json) : Except Mismatch Inquiry :=
  match type with
  | "execute_request" => execution.fromValue content
  | "kernel_info_request" => plain "struct KernelInfoRequest" .kernelInfo content
  | "is_complete_request" =>
    (shape "struct IsCompleteRequest" [⟨"code", text, true⟩] .isComplete).fromValue content
  | "shutdown_request" => shutdownRecord.fromValue content
  | "interrupt_request" => plain "struct InterruptRequest" .interrupt content
  | "history_request" => history content
  | type =>
    match passedOver.find? fun entry => entry.1 == type with
    | some entry => entry.2.fromValue content
    | none => .ok .unsupported

end Inquiry

namespace Message

/-- What is said about a content that does not fit. -/
def misfit (type : String) (m : Mismatch) : String :=
  s!"Error deserializing content for msg_type `{type}`: {m.message}: {m.message}"

def inquiry (message : Message) : Except String Inquiry :=
  (Inquiry.ofContent message.type message.content).mapError (misfit message.type)

end Message

end NotebookKernel
