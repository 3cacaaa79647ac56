import NotebookKernel.Dispatcher

/-!
What the kernel sends to a notebook. Everything is sent on behalf of a message
that came in, its parent.
-/

namespace NotebookKernel

/-- Why a cell has no result. -/
structure CellError where
  name : String
  value : String
  deriving DecidableEq, Repr

namespace CellError

def traceback (e : CellError) : List String := [s!"{e.name}: {e.value}"]

/-- The entries that both the output and the reply carry. -/
def entries (e : CellError) : List (String × Json) :=
  [("ename", .str e.name), ("evalue", .str e.value),
    ("traceback", .arr (e.traceback.map .str))]

end CellError

inductive Content where
  | status (busy : Bool)
  | executeInput (code : String) (count : Nat)
  | display (event : DisplayEvent)
  | error (e : CellError)
  | executeReply (count : Nat) (failure : Option CellError)
  | kernelInfoReply
  | isCompleteReply
  | interruptReply
  | shutdownReply (restart : Bool)

namespace Content

def type : Content → String
  | .status _ => "status"
  | .executeInput _ _ => "execute_input"
  | .display event => event.kind
  | .error _ => "error"
  | .executeReply _ _ => "execute_reply"
  | .kernelInfoReply => "kernel_info_reply"
  | .isCompleteReply => "is_complete_reply"
  | .interruptReply => "interrupt_reply"
  | .shutdownReply _ => "shutdown_reply"

def language : Json :=
  .obj
    [("name", .str "rust"), ("version", .str "1"), ("mimetype", .str "text/x-rust"),
      ("file_extension", .str ".rs"), ("pygments_lexer", .str "rust"),
      ("codemirror_mode", .str "rust"), ("nbconvert_exporter", .str "rust")]

/-- What the kernel says about itself. -/
def kernelInfo : Json :=
  .obj
    [("status", .str "ok"), ("protocol_version", .str "5.3"), ("implementation", .str "irust"),
      ("implementation_version", .str "0.5.0"), ("language_info", language),
      ("banner", .str "IRust"), ("help_links", .arr []), ("debugger", .bool false)]

def toJson : Content → Json
  | .status busy => .obj [("execution_state", .str (if busy then "busy" else "idle"))]
  | .executeInput code count => .obj [("code", .str code), ("execution_count", .int count)]
  | .display event => event.toJson
  | .error e => .obj e.entries
  | .executeReply count failure =>
    .obj <|
      [("status", .str (if failure.isSome then "error" else "ok")),
        ("execution_count", .int count), ("payload", .arr []), ("user_expressions", .obj [])] ++
      (failure.map CellError.entries).getD []
  | .kernelInfoReply => kernelInfo
  | .isCompleteReply => .obj [("status", .str "complete"), ("indent", .str "")]
  | .interruptReply => .obj [("status", .str "ok")]
  | .shutdownReply restart => .obj [("status", .str "ok"), ("restart", .bool restart)]

end Content

/-- Where messages come in and go out. -/
inductive Socket where
  | shell
  | control
  | iopub
  deriving DecidableEq, Repr

structure Sent where
  socket : Socket
  parent : String
  content : Content

end NotebookKernel
