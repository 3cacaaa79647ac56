import NotebookKernel.Json.Decoder
import NotebookKernel.Json.Printer

/-!
A request to the interpreter is one line: an object whose only key names the
request.
-/

namespace NotebookKernel

/-- Evaluate, insert or interpret the code; the interpreter decides which. -/
structure Request where
  code : String
  deriving DecidableEq, Repr

namespace Request

open Json

def toJson (request : Request) : Json :=
  .obj [("Execute", .obj [("code", .str request.code)])]

/-- Ends in a line feed and holds no other. -/
def toLine (request : Request) : String :=
  request.toJson.line

def record : Record (Option String) Request where
  name := "struct variant Request::Execute"
  fields := [field "code" stringDecoder id (fun _ code => some code) false]
  empty := none
  finish draft := (need "code" draft).map Request.mk

/-- The request may not stand without its content. -/
def readText (cs : List Char) : Except Stop Request :=
  whole <| match skip cs with
    | [] => .error (.next .endInValue [])
    | c :: rest =>
      if c = '"' then
        match variantFrom [("Execute", ())] (c :: rest) with
        | .error stop => .error stop
        | .ok (_, rest) => .error (.behind (wrongType .unitVariant "struct variant") rest)
      else if c = '{' then
        enter maxNesting (c :: rest) fun rooms =>
          taggedFrom [("Execute", ())] (fun _ => record.fromText rooms) rest
      else .error (.next .expectedValue (c :: rest))

def ofText (text : String) : Except Error Request :=
  (readText text.toList).mapError (.ofStop text.toList)

end Request

end NotebookKernel
