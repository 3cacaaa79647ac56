import NotebookKernel.Json.Scan

/-!
Reading a whole text as one JSON value. At most 127 lists and objects may be
open at once.
-/

namespace NotebookKernel.Json

def maxNesting : Nat := 127

/-- Behind a key, up to its value. -/
def colon (cs : List Char) : Except Stop (List Char) :=
  match skip cs with
  | [] => .error (.next .endInObject [])
  | ':' :: rest => .ok rest
  | rest => .error (.next .expectedColon rest)

mutual

/-- `rooms` is how many more lists and objects may be opened. The fuel is
bounded by the length of the text. -/
def readValue : Nat → Nat → List Char → Reading Json
  | 0, _, cs => .error (.next .recursionLimit cs)
  | fuel + 1, rooms, cs =>
    match skip cs with
    | [] => .error (.next .endInValue [])
    | c :: rest =>
      if c = 'n' then (keyword ['u', 'l', 'l'] rest).map fun rest => (.null, rest)
      else if c = 't' then (keyword ['r', 'u', 'e'] rest).map fun rest => (.bool true, rest)
      else if c = 'f' then
        (keyword ['a', 'l', 's', 'e'] rest).map fun rest => (.bool false, rest)
      else if c = '"' then (string rest).map fun (s, rest) => (.str s, rest)
      else if c = '-' then number true rest
      else if isDigit c then number false (c :: rest)
      else if c = '[' then
        match rooms with
        | 0 => .error (.next .recursionLimit (c :: rest))
        | rooms + 1 => (readList fuel rooms rest).map fun (items, rest) => (.arr items, rest)
      else if c = '{' then
        match rooms with
        | 0 => .error (.next .recursionLimit (c :: rest))
        | rooms + 1 =>
          (readObject fuel rooms rest).map fun (members, rest) => (object members, rest)
      else .error (.next .expectedValue (c :: rest))

/-- Behind an opening bracket. -/
def readList : Nat → Nat → List Char → Reading (List Json)
  | 0, _, cs => .error (.next .recursionLimit cs)
  | fuel + 1, rooms, cs =>
    match skip cs with
    | [] => .error (.next .endInList [])
    | ']' :: rest => .ok ([], rest)
    | rest => readItems fuel rooms rest

/-- At least one item, up to the closing bracket. -/
def readItems : Nat → Nat → List Char → Reading (List Json)
  | 0, _, cs => .error (.next .recursionLimit cs)
  | fuel + 1, rooms, cs =>
    match readValue fuel rooms cs with
    | .error stop => .error stop
    | .ok (item, rest) =>
      match skip rest with
      | [] => .error (.next .endInList [])
      | ']' :: rest => .ok ([item], rest)
      | ',' :: rest =>
        match skip rest with
        | [] => .error (.next .endInValue [])
        | ']' :: rest => .error (.next .trailingComma (']' :: rest))
        | rest => (readItems fuel rooms rest).map fun (items, rest) => (item :: items, rest)
      | rest => .error (.next .expectedCommaOrListEnd rest)

/-- Behind an opening brace: the members in the order of the text. -/
def readObject : Nat → Nat → List Char → Reading (List (String × Json))
  | 0, _, cs => .error (.next .recursionLimit cs)
  | fuel + 1, rooms, cs =>
    match skip cs with
    | [] => .error (.next .endInObject [])
    | '}' :: rest => .ok ([], rest)
    | '"' :: rest => readMembers fuel rooms rest
    | rest => .error (.next .keyMustBeString rest)

/-- At least one member, from behind the quote that opens its key. -/
def readMembers : Nat → Nat → List Char → Reading (List (String × Json))
  | 0, _, cs => .error (.next .recursionLimit cs)
  | fuel + 1, rooms, cs =>
    match string cs with
    | .error stop => .error stop
    | .ok (key, rest) =>
      match colon rest with
      | .error stop => .error stop
      | .ok rest =>
        match readValue fuel rooms rest with
        | .error stop => .error stop
        | .ok (value, rest) =>
          match skip rest with
          | [] => .error (.next .endInObject [])
          | '}' :: rest => .ok ([(key, value)], rest)
          | ',' :: rest =>
            match skip rest with
            | [] => .error (.next .endInValue [])
            | '}' :: rest => .error (.next .trailingComma ('}' :: rest))
            | '"' :: rest =>
              (readMembers fuel rooms rest).map fun (members, rest) =>
                ((key, value) :: members, rest)
            | rest => .error (.next .keyMustBeString rest)
          | rest => .error (.next .expectedCommaOrObjectEnd rest)

end

/-- Enough for every text of that length. -/
def fuelFor (cs : List Char) : Nat := 2 * cs.length + 2

/-- Nothing but blanks may follow. -/
def whole {α : Type} (reading : Reading α) : Except Stop α :=
  match reading with
  | .error stop => .error stop
  | .ok (value, rest) =>
    match skip rest with
    | [] => .ok value
    | rest => .error (.next .trailingCharacters rest)

def readText (cs : List Char) : Except Stop Json :=
  whole (readValue (fuelFor cs) maxNesting cs)

def ofText (text : String) : Except Error Json :=
  (readText text.toList).mapError (.ofStop text.toList)

end NotebookKernel.Json
