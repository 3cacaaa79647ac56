import NotebookKernel.Text.Utf8

/-!
Arithmetic of the shell on 64-bit integers. A name stands for the number that its
variable holds, and for zero if it holds none.
-/

namespace NotebookKernel.Shell

open Text (Bytes)

namespace Arithmetic

/-- Into the range of signed 64-bit numbers. -/
def wrap (i : Int) : Int := Int.bmod i (Nat.pow 2 64)

inductive Token where
  | number (n : Int)
  | name (name : String)
  | operator (text : String)
  deriving DecidableEq, Repr

/-- Operators that change a variable. -/
def assignments : List String :=
  ["=", "<<=", ">>=", "+=", "-=", "*=", "/=", "%=", "&=", "^=", "|="]

/-- Those that start with another one stand before it. -/
def operators : List String :=
  ["<<=", ">>=", "<<", ">>", "<=", ">=", "==", "!=", "&&", "||", "+=", "-=", "*=", "/=", "%=",
    "&=", "^=", "|=", "+", "-", "*", "/", "%", "<", ">", "!", "~", "&", "|", "^", "(", ")", "?",
    ":", "="]

def startsName (c : Char) : Bool := c.isAlpha || c == '_'

def inName (c : Char) : Bool := startsName c || c.isDigit

def digitsValue (base : Nat) (cs : List Char) : Option Nat :=
  cs.foldl (fun total c =>
    let digit :=
      if c.isDigit then c.toNat - 48
      else if 'a' ≤ c ∧ c ≤ 'f' then c.toNat - 87
      else if 'A' ≤ c ∧ c ≤ 'F' then c.toNat - 55
      else 99
    match total with
    | some n => if digit < base then some (n * base + digit) else none
    | none => none) (some 0)

/-- Decimal, octal behind a zero, hexadecimal behind `0x`. -/
def numberOf (cs : List Char) : Option Int :=
  let value : Option Nat := match cs with
    | [] => none
    | '0' :: 'x' :: rest | '0' :: 'X' :: rest =>
      if rest.isEmpty then none else digitsValue 16 rest
    | '0' :: rest => digitsValue 8 rest
    | cs => digitsValue 10 cs
  value.map fun n => if Nat.pow 2 63 ≤ n then Int.pow 2 63 - 1 else (n : Int)

def isSpace (c : Char) : Bool := c == ' ' || c == '\t' || c == '\n'

def tokens : Nat → List Char → Option (List Token)
  | 0, _ => none
  | fuel + 1, cs =>
    match cs.dropWhile isSpace with
    | [] => some []
    | c :: rest =>
      if c.isDigit then
        let word := (c :: rest).takeWhile inName
        match numberOf word with
        | some n => (tokens fuel ((c :: rest).drop word.length)).map (.number n :: ·)
        | none => none
      else if startsName c then
        let word := (c :: rest).takeWhile inName
        (tokens fuel ((c :: rest).drop word.length)).map (.name (.ofList word) :: ·)
      else
        match operators.find? fun op => op.toList == (c :: rest).take op.length with
        | some op => (tokens fuel ((c :: rest).drop op.length)).map (.operator op :: ·)
        | none => none

def truth (b : Bool) : Int := if b then 1 else 0

/-- On the binary digits of two numbers. -/
def bitwise (op : Int64 → Int64 → Int64) (a b : Int) : Int :=
  (op (.ofInt a) (.ofInt b)).toInt

/-- None for a division by zero. -/
def apply (op : String) (a b : Int) : Option Int :=
  match op with
  | "*" => some (wrap (a * b))
  | "/" => if b = 0 then none else some (wrap (Int.tdiv a b))
  | "%" => if b = 0 then none else some (Int.tmod a b)
  | "+" => some (wrap (a + b))
  | "-" => some (wrap (a - b))
  | "<<" => some (wrap (a * Int.pow 2 (b % 64).toNat))
  | ">>" => some (a / Int.pow 2 (b % 64).toNat)
  | "<" => some (truth (decide (a < b)))
  | "<=" => some (truth (decide (a ≤ b)))
  | ">" => some (truth (decide (b < a)))
  | ">=" => some (truth (decide (b ≤ a)))
  | "==" => some (truth (decide (a = b)))
  | "!=" => some (truth (decide (a ≠ b)))
  | "&" => some (bitwise (· &&& ·) a b)
  | "^" => some (bitwise (· ^^^ ·) a b)
  | "|" => some (bitwise (· ||| ·) a b)
  | "&&" => some (truth (decide (a ≠ 0 ∧ b ≠ 0)))
  | "||" => some (truth (decide (a ≠ 0 ∨ b ≠ 0)))
  | _ => none

/-- Operators from loose to tight. -/
def levels : List (List String) :=
  [["||"], ["&&"], ["|"], ["^"], ["&"], ["==", "!="], ["<", "<=", ">", ">="], ["<<", ">>"],
    ["+", "-"], ["*", "/", "%"]]

/-- The value of what was read, with what is left and the variables that were
changed, last ones first. -/
structure Reckoned where
  value : Int
  rest : List Token
  changed : List (String × Int)

/-- The number of a variable, as it is after the changes. -/
def current (look : String → Option Int) (changed : List (String × Int)) (name : String) :
    Option Int :=
  match changed.find? fun entry => entry.1 == name with
  | some entry => some entry.2
  | none => look name

mutual

/-- An expression, which may be an assignment or a choice. -/
def whole (look : String → Option Int) :
    Nat → List (String × Int) → List Token → Option Reckoned
  | 0, _, _ => none
  | fuel + 1, changed, tokens =>
    let choice : Option Reckoned :=
      match operand look fuel levels changed tokens with
      | none => none
      | some condition =>
        match condition.rest with
        | .operator "?" :: rest =>
          match whole look fuel condition.changed rest with
          | none => none
          | some yes =>
            match yes.rest with
            | .operator ":" :: rest =>
              (whole look fuel condition.changed rest).map fun no =>
                if condition.value ≠ 0 then { yes with rest := no.rest } else no
            | _ => none
        | _ => some condition
    match tokens with
    | .name x :: .operator op :: rest =>
      if assignments.contains op then
        match whole look fuel changed rest with
        | none => none
        | some right =>
          let plain := String.ofList (op.toList.dropLast)
          let value := if plain = "" then some right.value
            else (current look right.changed x).bind fun old => apply plain old right.value
          value.map fun value => { right with value, changed := (x, value) :: right.changed }
      else choice
    | _ => choice

/-- An operand and what follows it, at a level of tightness. -/
def operand (look : String → Option Int) :
    Nat → List (List String) → List (String × Int) → List Token → Option Reckoned
  | 0, _, _, _ => none
  | fuel + 1, [], changed, tokens =>
    let signed (rest : List Token) (op : Int → Int) : Option Reckoned :=
      (operand look fuel [] changed rest).map fun r => { r with value := op r.value }
    match tokens with
    | .number n :: rest => some ⟨n, rest, changed⟩
    | .name x :: rest => (current look changed x).map fun n => ⟨n, rest, changed⟩
    | .operator "(" :: rest =>
      match whole look fuel changed rest with
      | some ⟨n, .operator ")" :: rest, changed⟩ => some ⟨n, rest, changed⟩
      | _ => none
    | .operator "-" :: rest => signed rest fun n => wrap (-n)
    | .operator "+" :: rest => signed rest id
    | .operator "!" :: rest => signed rest fun n => truth (decide (n = 0))
    | .operator "~" :: rest => signed rest fun n => -n - 1
    | _ => none
  | fuel + 1, level :: tighter, changed, tokens =>
    match operand look fuel tighter changed tokens with
    | none => none
    | some first => onward look fuel level tighter first

/-- More operators of one level. -/
def onward (look : String → Option Int) :
    Nat → List String → List (List String) → Reckoned → Option Reckoned
  | 0, _, _, _ => none
  | fuel + 1, level, tighter, first =>
    match first.rest with
    | .operator op :: rest =>
      if level.contains op then
        match operand look fuel tighter first.changed rest with
        | none => none
        | some second =>
          match apply op first.value second.value with
          | none => none
          | some value => onward look fuel level tighter { second with value }
      else some first
    | _ => some first

end

/-- The value and the variables that were changed, last ones first. None if the
text is no expression, or divides by zero. -/
def evaluate (look : String → Option Int) (text : String) :
    Option (Int × List (String × Int)) :=
  match tokens (text.length + 1) text.toList with
  | none => none
  | some [] => some (0, [])
  | some words =>
    match whole look (14 * words.length + 20) [] words with
    | some ⟨n, [], changed⟩ => some (n, changed)
    | _ => none

/-- The number that a variable holds. -/
def ofVariable (value : String) : Option Int :=
  let cs := (value.toList.dropWhile isSpace).reverse.dropWhile isSpace |>.reverse
  match cs with
  | [] => some 0
  | '-' :: cs => (numberOf cs).map fun n => -n
  | '+' :: cs => numberOf cs
  | cs => numberOf cs

end Arithmetic

end NotebookKernel.Shell
