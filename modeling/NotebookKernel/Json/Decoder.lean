import NotebookKernel.Json.Skim

/-!
Values of a given shape, read from a text or taken from a JSON value. A text is
read once from left to right, so the first fault counts, whether it is one of
grammar or of shape.
-/

namespace NotebookKernel.Json

structure Decoder (α : Type) where
  /-- `rooms` is how many more lists and objects may be opened. -/
  fromText : (rooms : Nat) → List Char → Reading α
  fromValue : Json → Except Mismatch α

namespace Decoder

def readText {α : Type} (decoder : Decoder α) (cs : List Char) : Except Stop α :=
  whole (decoder.fromText maxNesting cs)

def ofText {α : Type} (decoder : Decoder α) (text : String) : Except Error α :=
  (decoder.readText text.toList).mapError (.ofStop text.toList)

def ofValue {α : Type} (decoder : Decoder α) (value : Json) : Except Error α :=
  (decoder.fromValue value).mapError .ofMismatch

def map {α β : Type} (f : α → β) (decoder : Decoder α) : Decoder β where
  fromText rooms cs := (decoder.fromText rooms cs).map fun (a, rest) => (f a, rest)
  fromValue value := (decoder.fromValue value).map f

end Decoder

def wrongType (found : Found) (expected : String) : Cause :=
  .mismatch (.invalidType found expected)

/-- A value of the wrong type: a scalar is read to its end, a list or an object
is not entered. -/
def unexpected (expected : String) (cs : List Char) : Stop :=
  let scalar (found : Reading Found) : Stop :=
    match found with
    | .error stop => stop
    | .ok (found, rest) => .behind (wrongType found expected) rest
  match cs with
  | [] => .next .endInValue []
  | c :: rest =>
    if c = 'n' then scalar ((keyword ['u', 'l', 'l'] rest).map fun rest => (.null, rest))
    else if c = 't' then
      scalar ((keyword ['r', 'u', 'e'] rest).map fun rest => (.boolean true, rest))
    else if c = 'f' then
      scalar ((keyword ['a', 'l', 's', 'e'] rest).map fun rest => (.boolean false, rest))
    else if c = '-' then scalar ((number true rest).map fun (n, rest) => (.ofJson n, rest))
    else if isDigit c then
      scalar ((number false (c :: rest)).map fun (n, rest) => (.ofJson n, rest))
    else if c = '"' then scalar ((string rest).map fun (s, rest) => (.string s, rest))
    else if c = '[' then .behind (wrongType .sequence expected) (c :: rest)
    else if c = '{' then .behind (wrongType .map expected) (c :: rest)
    else .next .expectedValue (c :: rest)

def textFrom (expected : String) (cs : List Char) : Reading String :=
  match skip cs with
  | '"' :: rest => string rest
  | rest => .error (unexpected expected rest)

def stringAs (expected : String) : Decoder String where
  fromText _ cs := textFrom expected cs
  fromValue
    | .str s => .ok s
    | value => .error (.invalidType (.ofJson value) expected)

def stringDecoder : Decoder String := stringAs "a string"

def boolean : Decoder Bool where
  fromText _ cs :=
    match skip cs with
    | 't' :: rest => (keyword ['r', 'u', 'e'] rest).map fun rest => (true, rest)
    | 'f' :: rest => (keyword ['a', 'l', 's', 'e'] rest).map fun rest => (false, rest)
    | rest => .error (unexpected "a boolean" rest)
  fromValue
    | .bool b => .ok b
    | value => .error (.invalidType (.ofJson value) "a boolean")

/-- A number from `low` on and below `high`. -/
def integerOf (expected : String) (low high : Int) (value : Json) : Except Mismatch Int :=
  match value with
  | .int i =>
    if low ≤ i ∧ i < high then .ok i
    else .error (.invalidValue (.integer i) expected)
  | value => .error (.invalidType (.ofJson value) expected)

def integerAs (expected : String) (low high : Int) : Decoder Int where
  fromText _ cs :=
    let narrow (reading : Reading Json) : Reading Int :=
      match reading with
      | .error stop => .error stop
      | .ok (value, rest) =>
        match integerOf expected low high value with
        | .ok n => .ok (n, rest)
        | .error m => .error (.behind (.mismatch m) rest)
    match skip cs with
    | [] => .error (.next .endInValue [])
    | c :: rest =>
      if c = '-' then narrow (number true rest)
      else if isDigit c then narrow (number false (c :: rest))
      else .error (unexpected expected (c :: rest))
  fromValue := integerOf expected low high

/-- A number of so many bits without sign. -/
def unsigned (bits : Nat) : Decoder Nat :=
  (integerAs s!"u{bits}" 0 (Int.pow 2 bits)).map Int.toNat

/-- Null stands for nothing. -/
def nullable {α : Type} (inner : Decoder α) : Decoder (Option α) where
  fromText rooms cs :=
    match skip cs with
    | 'n' :: rest => (keyword ['u', 'l', 'l'] rest).map fun rest => (none, rest)
    | rest => (inner.fromText rooms rest).map fun (a, rest) => (some a, rest)
  fromValue
    | .null => .ok none
    | value => (inner.fromValue value).map some

/-- Whether a list goes on, from behind an item or the opening bracket. None if
it is over; the bracket is left. -/
def nextItem (first : Bool) (cs : List Char) : Except Stop (Option (List Char)) :=
  match skip cs with
  | [] => .error (.next .endInList [])
  | ']' :: _ => .ok none
  | c :: rest =>
    if first then .ok (some (c :: rest))
    else if c = ',' then
      match skip rest with
      | [] => .error (.next .endInValue [])
      | ']' :: rest => .error (.next .trailingComma (']' :: rest))
      | rest => .ok (some rest)
    else .error (.next .expectedCommaOrListEnd (c :: rest))

/-- The bracket that ends a list. -/
def closeList (cs : List Char) : Except Stop (List Char) :=
  match skip cs with
  | [] => .error (.next .endInList [])
  | ']' :: rest => .ok rest
  | ',' :: rest =>
    match skip rest with
    | ']' :: rest => .error (.next .trailingComma (']' :: rest))
    | rest => .error (.next .trailingCharacters rest)
  | rest => .error (.next .trailingCharacters rest)

/-- What is left of a list or object that is given up: its closing bracket is
taken if it is next. -/
def giveUp (close : Char) (cs : List Char) : List Char :=
  match skip cs with
  | [] => []
  | c :: rest =>
    if c = close then rest
    else if c = ',' ∧ close = ']' then skip rest
    else c :: rest

def enter {α : Type} (rooms : Nat) (cs : List Char) (inside : Nat → Reading α) : Reading α :=
  match rooms with
  | 0 => .error (.next .recursionLimit cs)
  | rooms + 1 => inside rooms

def itemsFrom {α : Type} (item : List Char → Reading α) :
    Nat → Bool → List Char → Reading (List α)
  | 0, _, cs => .error (.next .recursionLimit cs)
  | fuel + 1, first, cs =>
    match nextItem first cs with
    | .error stop => .error stop
    | .ok none => (closeList cs).map fun rest => ([], rest)
    | .ok (some rest) =>
      match item rest with
      | .error stop => .error stop
      | .ok (a, rest) =>
        (itemsFrom item fuel false rest).map fun (items, rest) => (a :: items, rest)

def listOf {α : Type} (inner : Decoder α) : Decoder (List α) where
  fromText rooms cs :=
    match skip cs with
    | '[' :: rest =>
      enter rooms ('[' :: rest) fun rooms =>
        itemsFrom (inner.fromText rooms) (fuelFor rest) true rest
    | rest => .error (unexpected "a sequence" rest)
  fromValue
    | .arr items => items.mapM inner.fromValue
    | value => .error (.invalidType (.ofJson value) "a sequence")

/-- An object with any keys. -/
def mapOf {α : Type} (inner : Json → Except Mismatch α) :
    Json → Except Mismatch (List (String × α))
  | .obj members => members.mapM fun (key, value) => (inner value).map fun a => (key, a)
  | value => .error (.invalidType (.ofJson value) "a map")

/-- One of several names. -/
def variant {α : Type} (variants : List (String × α)) (name : String) : Except Mismatch α :=
  match variants.find? fun known => known.1 == name with
  | some known => .ok known.2
  | none => .error (.unknownVariant name (variants.map (·.1)))

def variantFrom {α : Type} (variants : List (String × α)) (cs : List Char) : Reading α :=
  match textFrom "variant identifier" cs with
  | .error stop => .error stop
  | .ok (name, rest) =>
    match variant variants name with
    | .ok a => .ok (a, rest)
    | .error m => .error (.behind (.mismatch m) rest)

/-- The key of an object that names a variant. -/
def tagFrom {α : Type} (variants : List (String × α)) (cs : List Char) : Reading α :=
  match skip cs with
  | [] => .error (.next .endInObject [])
  | c :: rest =>
    if c = '"' then variantFrom variants (c :: rest)
    else if c = '}' then .error (.next .expectedValue (c :: rest))
    else .error (.next .keyMustBeString (c :: rest))

/-- The single entry of an object that names a variant, and its closing brace. -/
def taggedFrom {α β : Type} (variants : List (String × α))
    (content : α → List Char → Reading β) (cs : List Char) : Reading β :=
  match tagFrom variants cs with
  | .error stop => .error stop
  | .ok (a, rest) =>
    match colon rest with
    | .error stop => .error stop
    | .ok rest =>
      match content a rest with
      | .error stop => .error stop
      | .ok (b, rest) =>
        match skip rest with
        | [] => .error (.behind .endInObject [])
        | '}' :: rest => .ok (b, rest)
        | rest => .error (.behind .expectedValue rest)

/-- A name, or an object with the name as its only key and null as its value. -/
def choice {α : Type} (variants : List (String × α)) : Decoder α where
  fromText rooms cs :=
    match skip cs with
    | [] => .error (.next .endInValue [])
    | c :: rest =>
      if c = '"' then variantFrom variants (c :: rest)
      else if c = '{' then
        enter rooms (c :: rest) fun _ =>
          taggedFrom variants
            (fun a rest =>
              match skip rest with
              | 'n' :: rest => (keyword ['u', 'l', 'l'] rest).map fun rest => (a, rest)
              | rest => .error (unexpected "unit" rest))
            rest
      else .error (.next .expectedValue (c :: rest))
  fromValue
    | .str name => variant variants name
    | .obj [(name, content)] =>
      match variant variants name with
      | .error m => .error m
      | .ok a =>
        match content with
        | .null => .ok a
        | content => .error (.invalidType (.ofJson content) "unit")
    | .obj _ => .error (.invalidValue .map "map with a single key")
    | value => .error (.invalidType (.ofJson value) "string or map")

/-- A field of a record that is gathered in a draft. -/
structure Field (σ : Type) where
  name : String
  isSet : σ → Bool
  fromText : Nat → σ → List Char → Reading σ
  fromValue : σ → Json → Except Mismatch σ
  /-- A list may end before this field. -/
  mayEnd : Bool

def field {α σ : Type} (name : String) (decoder : Decoder α) (get : σ → Option α)
    (set : σ → α → σ) (mayEnd : Bool) : Field σ where
  name := name
  isSet draft := (get draft).isSome
  fromText rooms draft cs := (decoder.fromText rooms cs).map fun (a, rest) => (set draft a, rest)
  fromValue draft value := (decoder.fromValue value).map (set draft)
  mayEnd := mayEnd

/-- A record is an object with known fields, or a list of them in their order.
Unknown keys are passed over. -/
structure Record (σ α : Type) where
  name : String
  fields : List (Field σ)
  empty : σ
  finish : σ → Except Mismatch α

namespace Record

variable {σ α : Type}

def sized (record : Record σ α) : String :=
  let n := record.fields.length
  s!"{record.name} with {n} element" ++ (if n = 1 then "" else "s")

def field? (record : Record σ α) (key : String) : Option (Field σ) :=
  record.fields.find? fun f => f.name == key

/-- Fields in their order, from a list of which `index` items are read. -/
def fromItems (record : Record σ α) (rooms : Nat) :
    List (Field σ) → Nat → σ → List Char → Reading σ
  | [], _, draft, cs => .ok (draft, cs)
  | f :: fields, index, draft, cs =>
    match nextItem (index == 0) cs with
    | .error stop => .error stop
    | .ok none =>
      if f.mayEnd then fromItems record rooms fields index draft cs
      else .error
        (.behind (.mismatch (.invalidLength index record.sized)) (giveUp ']' cs))
    | .ok (some rest) =>
      match f.fromText rooms draft rest with
      | .error stop => .error stop
      | .ok (draft, rest) => fromItems record rooms fields (index + 1) draft rest

/-- A key is to follow. None if the object is over; the brace is left. -/
def nextKey (first : Bool) (cs : List Char) : Except Stop (Option (List Char)) :=
  match skip cs with
  | [] => .error (.next .endInObject [])
  | '}' :: _ => .ok none
  | c :: rest =>
    if first then
      if c = '"' then .ok (some rest) else .error (.next .keyMustBeString (c :: rest))
    else if c = ',' then
      match skip rest with
      | [] => .error (.next .endInValue [])
      | '"' :: rest => .ok (some rest)
      | '}' :: rest => .error (.next .trailingComma ('}' :: rest))
      | rest => .error (.next .keyMustBeString rest)
    else .error (.next .expectedCommaOrObjectEnd (c :: rest))

def fromMembers (record : Record σ α) (rooms : Nat) : Nat → Bool → σ → List Char → Reading σ
  | 0, _, _, cs => .error (.next .recursionLimit cs)
  | fuel + 1, first, draft, cs =>
    match nextKey first cs with
    | .error stop => .error stop
    | .ok none => .ok (draft, cs)
    | .ok (some rest) =>
      match string rest with
      | .error stop => .error stop
      | .ok (key, rest) =>
        match record.field? key with
        | none =>
          match colon rest with
          | .error stop => .error stop
          | .ok rest =>
            match skim rest with
            | .error stop => .error stop
            | .ok rest => fromMembers record rooms fuel false draft rest
        | some f =>
          if f.isSet draft then
            .error (.behind (.mismatch (.duplicateField key)) (giveUp '}' rest))
          else
            match colon rest with
            | .error stop => .error stop
            | .ok rest =>
              match f.fromText rooms draft rest with
              | .error stop => .error stop
              | .ok (draft, rest) => fromMembers record rooms fuel false draft rest

def finishAt (record : Record σ α) (draft : σ) (rest : List Char) : Except Stop α :=
  (record.finish draft).mapError fun m => .behind (.mismatch m) rest

def fromText (record : Record σ α) (rooms : Nat) (cs : List Char) : Reading α :=
  match skip cs with
  | [] => .error (.next .endInValue [])
  | c :: rest =>
    if c = '[' then
      enter rooms (c :: rest) fun rooms =>
        match fromItems record rooms record.fields 0 record.empty rest with
        | .error stop => .error stop
        | .ok (draft, rest) =>
          match finishAt record draft (giveUp ']' rest) with
          | .error stop => .error stop
          | .ok a => (closeList rest).map fun rest => (a, rest)
    else if c = '{' then
      enter rooms (c :: rest) fun rooms =>
        match fromMembers record rooms (fuelFor rest) true record.empty rest with
        | .error stop => .error stop
        | .ok (draft, rest) =>
          let rest := giveUp '}' rest
          (finishAt record draft rest).map fun a => (a, rest)
    else .error (unexpected record.name (c :: rest))

def valueItems (record : Record σ α) :
    List (Field σ) → Nat → σ → List Json → Except Mismatch (σ × List Json)
  | [], _, draft, items => .ok (draft, items)
  | f :: fields, index, draft, [] =>
    if f.mayEnd then valueItems record fields index draft []
    else .error (.invalidLength index record.sized)
  | f :: fields, index, draft, item :: items =>
    match f.fromValue draft item with
    | .error m => .error m
    | .ok draft => valueItems record fields (index + 1) draft items

def valueMembers (record : Record σ α) (draft : σ) :
    List (String × Json) → Except Mismatch σ
  | [] => .ok draft
  | (key, value) :: members =>
    match record.field? key with
    | none => valueMembers record draft members
    | some f =>
      if f.isSet draft then .error (.duplicateField key)
      else match f.fromValue draft value with
        | .error m => .error m
        | .ok draft => valueMembers record draft members

def fromValue (record : Record σ α) : Json → Except Mismatch α
  | .arr items =>
    match valueItems record record.fields 0 record.empty items with
    | .error m => .error m
    | .ok (draft, left) =>
      match record.finish draft with
      | .error m => .error m
      | .ok a =>
        if left.isEmpty then .ok a
        else .error (.invalidLength items.length "fewer elements in array")
  | .obj members =>
    match valueMembers record record.empty members with
    | .error m => .error m
    | .ok draft => record.finish draft
  | value => .error (.invalidType (.ofJson value) record.name)

def decoder (record : Record σ α) : Decoder α where
  fromText := record.fromText
  fromValue := record.fromValue

end Record

/-- A field that must be there. -/
def need {α : Type} (name : String) (value : Option α) : Except Mismatch α :=
  match value with
  | some a => .ok a
  | none => .error (.missingField name)

end NotebookKernel.Json
