import NotebookKernel.Json.Basic

/-!
Writing JSON, on one line or indented by two blanks a level. Control characters
are escaped, everything else stands for itself.
-/

namespace NotebookKernel.Json

/-- The digits of a small number in hexadecimal, two of them. -/
def hexPair (n : Nat) : List Char :=
  [Nat.digitChar (n / 16), Nat.digitChar (n % 16)]

def escapeChar (c : Char) : List Char :=
  if c = '"' then ['\\', '"']
  else if c = '\\' then ['\\', '\\']
  else if c = '\n' then ['\\', 'n']
  else if c = '\r' then ['\\', 'r']
  else if c = '\t' then ['\\', 't']
  else if c = '\x08' then ['\\', 'b']
  else if c = '\x0c' then ['\\', 'f']
  else if c < ' ' then ['\\', 'u', '0', '0'] ++ hexPair c.toNat
  else [c]

def quote (s : String) : List Char :=
  '"' :: s.toList.flatMap escapeChar ++ ['"']

def boolText (b : Bool) : List Char :=
  if b then ['t', 'r', 'u', 'e'] else ['f', 'a', 'l', 's', 'e']

def nullText : List Char := ['n', 'u', 'l', 'l']

mutual

def compact : Json → List Char
  | .null => nullText
  | .bool b => boolText b
  | .int i => (toString i).toList
  | .float x => x.text.toList
  | .str s => quote s
  | .arr items => '[' :: compactItems items
  | .obj members => '{' :: compactMembers members

def compactItems : List Json → List Char
  | [] => [']']
  | [item] => compact item ++ [']']
  | item :: items => compact item ++ ',' :: compactItems items

def compactMembers : List (String × Json) → List Char
  | [] => ['}']
  | [(key, value)] => quote key ++ ':' :: compact value ++ ['}']
  | (key, value) :: members => quote key ++ ':' :: compact value ++ ',' :: compactMembers members

end

def line (value : Json) : String := .ofList (compact value ++ ['\n'])

def indent (depth : Nat) : List Char := '\n' :: List.replicate (2 * depth) ' '

mutual

/-- `depth` is how many lists and objects are open. -/
def prettyAt (depth : Nat) : Json → List Char
  | .arr [] => ['[', ']']
  | .arr items => '[' :: prettyItems (depth + 1) items ++ indent depth ++ [']']
  | .obj [] => ['{', '}']
  | .obj members => '{' :: prettyMembers (depth + 1) members ++ indent depth ++ ['}']
  | .null => nullText
  | .bool b => boolText b
  | .int i => (toString i).toList
  | .float x => x.text.toList
  | .str s => quote s

def prettyItems (depth : Nat) : List Json → List Char
  | [] => []
  | [item] => indent depth ++ prettyAt depth item
  | item :: items => indent depth ++ prettyAt depth item ++ ',' :: prettyItems depth items

def prettyMembers (depth : Nat) : List (String × Json) → List Char
  | [] => []
  | [(key, value)] => indent depth ++ quote key ++ ':' :: ' ' :: prettyAt depth value
  | (key, value) :: members =>
    indent depth ++ quote key ++ ':' :: ' ' :: prettyAt depth value ++
      ',' :: prettyMembers depth members

end

def pretty (value : Json) : String := .ofList (prettyAt 0 value)

end NotebookKernel.Json
