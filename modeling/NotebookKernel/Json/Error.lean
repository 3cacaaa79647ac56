import NotebookKernel.Json.Basic
import NotebookKernel.Text.Quoted
import NotebookKernel.Text.Utf8

/-!
What can be wrong with a JSON text: it ends too soon, it breaks the grammar, or
it holds a value of the wrong shape. The first fault in the order of the text is
reported, with its place.
-/

namespace NotebookKernel.Json

/-- What was found where something else was expected. -/
inductive Found where
  | null
  | boolean (b : Bool)
  | integer (i : Int)
  | floating (x : Binary64)
  | string (s : String)
  | sequence
  | map
  | unitVariant
  deriving DecidableEq, Repr

def Found.ofJson : Json → Found
  | .null => .null
  | .bool b => .boolean b
  | .int i => .integer i
  | .float x => .floating x
  | .str s => .string s
  | .arr _ => .sequence
  | .obj _ => .map

def Found.message : Found → String
  | .null => "null"
  | .boolean b => s!"boolean `{b}`"
  | .integer i => s!"integer `{i}`"
  | .floating x => s!"floating point `{x.text}`"
  | .string s => "string " ++ Text.quoted s
  | .sequence => "sequence"
  | .map => "map"
  | .unitVariant => "unit variant"

/-- How a value fails to have the shape that is asked for. -/
inductive Mismatch where
  | invalidType (found : Found) (expected : String)
  | invalidValue (found : Found) (expected : String)
  | invalidLength (length : Nat) (expected : String)
  | missingField (name : String)
  | duplicateField (name : String)
  | unknownVariant (name : String) (known : List String)
  | notText
  deriving DecidableEq, Repr

def oneOf (names : List String) : String :=
  match names.map fun name => s!"`{name}`" with
  | [] => "nothing"
  | [a] => a
  | [a, b] => s!"{a} or {b}"
  | many => "one of " ++ String.intercalate ", " many

def Mismatch.message : Mismatch → String
  | .invalidType found expected => s!"invalid type: {found.message}, expected {expected}"
  | .invalidValue found expected => s!"invalid value: {found.message}, expected {expected}"
  | .invalidLength length expected => s!"invalid length {length}, expected {expected}"
  | .missingField name => s!"missing field `{name}`"
  | .duplicateField name => s!"duplicate field `{name}`"
  | .unknownVariant name known => s!"unknown variant `{name}`, expected {oneOf known}"
  | .notText => "Invalid value for text-based media type"

inductive Cause where
  | endInList
  | endInObject
  | endInString
  | endInValue
  | expectedColon
  | expectedCommaOrListEnd
  | expectedCommaOrObjectEnd
  | expectedIdent
  | expectedValue
  | invalidEscape
  | invalidNumber
  | numberOutOfRange
  | controlCharacter
  | keyMustBeString
  | loneSurrogate
  | trailingComma
  | trailingCharacters
  | unexpectedEndOfEscape
  | recursionLimit
  | mismatch (m : Mismatch)
  deriving DecidableEq, Repr

/-- The text ends too soon, breaks the grammar, or holds the wrong shape. -/
inductive Category where
  | eof
  | syntaxError
  | data
  deriving DecidableEq, Repr

def Cause.category : Cause → Category
  | .endInList | .endInObject | .endInString | .endInValue => .eof
  | .mismatch _ => .data
  | _ => .syntaxError

def Cause.message : Cause → String
  | .endInList => "EOF while parsing a list"
  | .endInObject => "EOF while parsing an object"
  | .endInString => "EOF while parsing a string"
  | .endInValue => "EOF while parsing a value"
  | .expectedColon => "expected `:`"
  | .expectedCommaOrListEnd => "expected `,` or `]`"
  | .expectedCommaOrObjectEnd => "expected `,` or `\x7d`"
  | .expectedIdent => "expected ident"
  | .expectedValue => "expected value"
  | .invalidEscape => "invalid escape"
  | .invalidNumber => "invalid number"
  | .numberOutOfRange => "number out of range"
  | .controlCharacter => "control character (\\u0000-\\u001F) found while parsing a string"
  | .keyMustBeString => "key must be a string"
  | .loneSurrogate => "lone leading surrogate in hex escape"
  | .trailingComma => "trailing comma"
  | .trailingCharacters => "trailing characters"
  | .unexpectedEndOfEscape => "unexpected end of hex escape"
  | .recursionLimit => "recursion limit exceeded"
  | .mismatch m => m.message

/-- Lines count from one, columns in octets from the start of the line. -/
structure Place where
  line : Nat
  column : Nat
  deriving DecidableEq, Repr

/-- The place `index` octets into a text. -/
def Place.after (text : List Char) (index : Nat) : Place :=
  go text index ⟨1, 0⟩
where
  go : List Char → Nat → Place → Place
    | [], _, place => place
    | c :: rest, left, place =>
      if left = 0 then place
      else if left < Text.Utf8.width c then ⟨place.line, place.column + left⟩
      else go rest (left - Text.Utf8.width c)
        (if c = '\n' then ⟨place.line + 1, 0⟩
         else ⟨place.line, place.column + Text.Utf8.width c⟩)

/-- A fault met while reading: what was left unread, and how many octets of
that count as read. -/
structure Stop where
  cause : Cause
  unread : List Char
  past : Nat
  deriving DecidableEq, Repr

/-- Behind all that was read. -/
def Stop.behind (cause : Cause) (unread : List Char) : Stop := ⟨cause, unread, 0⟩

/-- At the next octet, which counts as read if there is one. -/
def Stop.next (cause : Cause) (unread : List Char) : Stop :=
  ⟨cause, unread, if unread.isEmpty then 0 else 1⟩

def Stop.place (stop : Stop) (text : List Char) : Place :=
  .after text (Text.Utf8.size text - Text.Utf8.size stop.unread + stop.past)

/-- A fault as it is reported; one of a value that came from no text has no
place. -/
structure Error where
  cause : Cause
  place : Option Place
  deriving DecidableEq, Repr

def Error.ofMismatch (m : Mismatch) : Error := ⟨.mismatch m, none⟩

def Error.ofStop (text : List Char) (stop : Stop) : Error := ⟨stop.cause, some (stop.place text)⟩

def Error.message (e : Error) : String :=
  match e.place with
  | some place => s!"{e.cause.message} at line {place.line} column {place.column}"
  | none => e.cause.message

abbrev Reading (α : Type) := Except Stop (α × List Char)

end NotebookKernel.Json
