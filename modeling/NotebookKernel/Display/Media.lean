import NotebookKernel.Display.Event

/-!
Display events as a notebook takes them. Each media type says which values it may
hold: text, a table, or any JSON.
-/

namespace NotebookKernel.Media

open Json

/-- Media types whose value is text. -/
def textTypes : List String :=
  ["text/plain", "text/html", "text/latex", "application/javascript", "text/markdown",
    "image/svg+xml", "image/png", "image/jpeg", "image/gif"]

def tableType : String := "application/vnd.dataresource+json"

def startsWith : List Char → List Char → Bool
  | [], _ => true
  | _ :: _, [] => false
  | c :: cs, d :: ds => c == d && startsWith cs ds

def isJsonType (mimeType : String) : Bool :=
  mimeType == "application/json" ||
    (startsWith "application/".toList mimeType.toList &&
      startsWith "+json".toList.reverse mimeType.toList.reverse)

def string? : Json → Option String
  | .str s => some s
  | _ => none

/-- Text may come in pieces; pieces that are no strings are dropped. -/
def textValue : Json → Except Mismatch Json
  | .str s => .ok (.str s)
  | .arr items => .ok (.str (String.join (items.filterMap string?)))
  | _ => .error .notText

/-- A list of nothing but strings is text in pieces. -/
def otherValue : Json → Json
  | .arr items =>
    match items.mapM string? with
    | some pieces => .str (String.join pieces)
    | none => .arr items
  | value => value

/-- The types that a column of a table may have. -/
def columnTypes : List (String × Unit) :=
  ["string", "number", "integer", "date", "time", "datetime", "year", "yearmonth", "boolean",
    "object", "geopoint", "geojson", "array", "duration", "any"].map (·, ())

structure ColumnDraft where
  name : Option String := none
  type : Option Unit := none

def column : Record ColumnDraft Unit where
  name := "struct TableSchemaField"
  fields :=
    [field "name" stringDecoder (·.name) (fun d s => { d with name := some s }) false,
      field "type" (choice columnTypes) (·.type) (fun d t => { d with type := some t }) false]
  empty := {}
  finish draft :=
    match need "name" draft.name, need "type" draft.type with
    | .error m, _ => .error m
    | _, .error m => .error m
    | .ok _, .ok _ => .ok ()

def schema : Record (Option (List Unit)) Unit where
  name := "struct TableSchema"
  fields := [field "fields" (listOf column.decoder) id (fun _ columns => some columns) false]
  empty := none
  finish draft := (need "fields" draft).map fun _ => ()

def table : Record (Option Unit) Unit where
  name := "struct TabularDataResource"
  fields := [field "schema" schema.decoder id (fun _ s => some s) false]
  empty := none
  finish draft := need "schema" draft

def value (mimeType : String) (v : Json) : Except Mismatch Json :=
  if textTypes.contains mimeType then textValue v
  else if mimeType = tableType then (table.fromValue v).map fun _ => v
  else if isJsonType mimeType then .ok v
  else .ok (otherValue v)

/-- All entries of a display event; the first that does not fit decides. -/
def bundle : List (String × Json) → Except Mismatch (List (String × Json))
  | [] => .ok []
  | (mimeType, v) :: rest =>
    match value mimeType v with
    | .error m => .error m
    | .ok v => (bundle rest).map ((mimeType, v) :: ·)

/-- The streams that a notebook has. -/
def streams : List (String × Unit) := [("stdout", ()), ("stderr", ())]

/-- The event with every value as its media type wants it. -/
def accept : DisplayEvent → Except Mismatch DisplayEvent
  | .stream name text => (variant streams name).map fun _ => .stream name text
  | .displayData data metadata => (bundle data).map fun data => .displayData data metadata

end NotebookKernel.Media
