import NotebookKernel.Live
import NotebookKernel.Text.Blank

/-!
A console takes one cell a line. It prints what a cell shows as plain text, and
stops at the end of its input or when the session can no longer be used. It waits
for the end of a cell before it reads the next line.
-/

namespace NotebookKernel

/-- Where a console stands. -/
inductive Console.Position where
  /-- A cell waits. -/
  | waiting (stage : Stage)
  /-- There is nothing more to do. A line that cannot be read is a fault. -/
  | ended (fault : Option Text.Utf8.Fault)

structure Console (τ : Type) where
  dispatcher : Dispatcher τ
  /-- All that was printed. -/
  output : String
  /-- The lines that are not read yet. -/
  unread : List Text.Bytes
  position : Console.Position

namespace Console

open Text (Bytes)

/-- The input cut behind each line feed. The last line may do without one. -/
def lines : Bytes → List Bytes
  | [] => []
  | b :: rest =>
    if b = 10 then [b] :: lines rest
    else match lines rest with
      | [] => [[b]]
      | line :: more => (b :: line) :: more

/-- The cell on a line: blanks at the end do not belong to it. -/
def cellOf (line : List Char) : String := .ofList (Text.trimRight line)

/-- A text and a line feed, unless it ends in one. -/
def closed (text : String) : String :=
  if text.toList.getLast? == some '\n' then text else text ++ "\n"

def shown (events : List DisplayEvent) : String :=
  String.join (events.filterMap fun event => event.plainText?.map closed)

def complaint (e : DispatchError) : String :=
  s!"error: {e.message}\n"

variable {τ ε : Type} [Transport τ ε]

/-- A cell has come to this; `next` goes on with the lines behind it. -/
def proceed (next : Dispatcher τ → String → Console τ) (output : String) (unread : List Bytes) :
    Dispatcher τ × Step → Console τ
  | (d, .waiting stage) => ⟨d, output, unread, .waiting stage⟩
  | (d, .done (.ok dispatched)) => next d (output ++ shown dispatched.events)
  | (d, .done (.error e)) =>
    if d.isDefunct then ⟨d, output ++ complaint e, unread, .ended none⟩
    else next d (output ++ complaint e)

/-- Reads lines up to where a cell waits. -/
def read (d : Dispatcher τ) (output : String) : List Bytes → Console τ
  | [] => ⟨d, output, [], .ended none⟩
  | line :: unread =>
    match Text.Utf8.decode line with
    | .error fault => ⟨d, output, unread, .ended (some fault)⟩
    | .ok cs =>
      let cell := cellOf cs
      if cell = "" then read d output unread
      else proceed (fun d output => read d output unread) output unread (d.submit cell false)

def start (d : Dispatcher τ) (input : Bytes) : Console τ := read d "" (lines input)

/-- The waiting cell hears something. -/
def hear (c : Console τ) (heard : ε) : Console τ :=
  match c.position with
  | .waiting stage =>
    proceed (fun d output => read d output c.unread) c.output c.unread
      (c.dispatcher.resume stage heard)
  | .ended _ => c

/-- One thing after the other is heard. -/
def hearAll (c : Console τ) (heard : List ε) : Console τ := heard.foldl hear c

def stage? (c : Console τ) : Option Stage :=
  match c.position with
  | .waiting stage => some stage
  | .ended _ => none

/-- Why it has ended before its input. -/
def fault? (c : Console τ) : Option Text.Utf8.Fault :=
  match c.position with
  | .waiting _ => none
  | .ended fault => fault

/-- What a console has come to. -/
structure Printed where
  output : String
  fault : Option Text.Utf8.Fault
  /-- A cell still waits. -/
  waits : Bool
  deriving DecidableEq

/-- A console in the world of its transport, as long as that is watched. -/
def run {τ ε : Type} [Live τ ε] (d : Dispatcher τ) (input : Bytes) : Dispatcher τ × Printed :=
  let c := (start d.timed input).hearAll (Live.moments none)
  (c.dispatcher.untimed, ⟨c.output, c.fault?, c.stage?.isSome⟩)

end Console

end NotebookKernel
