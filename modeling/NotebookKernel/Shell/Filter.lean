import NotebookKernel.Host.FileTree

/-!
Programs that read all they are given and print something made of it.
-/

namespace NotebookKernel.Shell

open Text (Bytes)

namespace Filter

/-- Which part of a text is meant: so many octets or lines at one end, or all from
a place on. -/
structure Amount where
  count : Nat := 10
  inOctets : Bool := false
  fromPlace : Bool := false
  deriving DecidableEq, Repr

/-- The lines of a text with their line feeds. -/
def lines : Nat → Bytes → List Bytes
  | 0, _ => []
  | _ + 1, [] => []
  | fuel + 1, bytes =>
    let line := bytes.takeWhile (· != 10)
    match bytes.drop line.length with
    | [] => [line]
    | _ :: rest => (line ++ [10]) :: lines fuel rest

def linesOf (bytes : Bytes) : List Bytes := lines (bytes.length + 1) bytes

def numberIn (amount : Amount) (cs : List Char) : Option Amount :=
  match cs with
  | '+' :: cs =>
    (String.ofList cs).toNat?.map fun count => { amount with count, fromPlace := true }
  | cs => (String.ofList cs).toNat?.map fun count => { amount with count }

/-- The amount that is asked for and the names of files. -/
def amountOf (amount : Amount) : List String → Amount × List String
  | [] => (amount, [])
  | word :: rest =>
    let counted (inOctets : Bool) (cs : List Char) : Amount × List String :=
      let amount := { amount with inOctets }
      match cs, rest with
      | [], next :: rest => amountOf ((numberIn amount next.toList).getD amount) rest
      | cs, rest => amountOf ((numberIn amount cs).getD amount) rest
    match word.toList with
    | '-' :: 'n' :: cs => counted false cs
    | '-' :: 'c' :: cs => counted true cs
    | '-' :: c :: cs => amountOf ((numberIn amount (c :: cs)).getD amount) rest
    | _ =>
      let (amount, names) := amountOf amount rest
      (amount, word :: names)

def first (amount : Amount) (bytes : Bytes) : Bytes :=
  if amount.inOctets then bytes.take amount.count
  else ((linesOf bytes).take amount.count).flatten

def last (amount : Amount) (bytes : Bytes) : Bytes :=
  let skipped (length : Nat) : Nat :=
    if amount.fromPlace then amount.count - 1 else length - amount.count
  if amount.inOctets then bytes.drop (skipped bytes.length)
  else
    let lines := linesOf bytes
    (lines.drop (skipped lines.length)).flatten

/-- Whether what follows makes no difference. -/
def isEnough (amount : Amount) (bytes : Bytes) : Bool :=
  amount.count ≤ if amount.inOctets then bytes.length else bytes.count 10

def isBlank (b : UInt8) : Bool := b == 32 || (9 ≤ b && b ≤ 13)

def wordCount : Bool → Bytes → Nat
  | _, [] => 0
  | inWord, b :: rest =>
    if isBlank b then wordCount false rest
    else (if inWord then 0 else 1) + wordCount true rest

/-- How many lines, words and octets there are. Several numbers stand in columns. -/
def counts (letters : List Char) (bytes : Bytes) : Bytes :=
  let wanted (c : Char) : Bool := letters.isEmpty || letters.contains c
  let numbers := (if wanted 'l' then [bytes.count 10] else []) ++
    (if wanted 'w' then [wordCount false bytes] else []) ++
    (if wanted 'c' then [bytes.length] else [])
  let column (n : Nat) : String :=
    if numbers.length = 1 then toString n
    else "".pushn ' ' (7 - (toString n).length) ++ toString n
  Text.Utf8.encode ((" ".intercalate (numbers.map column)).toList ++ ['\n'])

def octalDigit (c : Char) : Bool := '0' ≤ c && c ≤ '7'

def range (low high : Nat) : List UInt8 :=
  (List.range (high + 1 - low)).map fun n => .ofNat (low + n)

/-- A set of octets in order, as it is written. -/
def setOf : Nat → List Char → List UInt8
  | 0, _ => []
  | _ + 1, [] => []
  | fuel + 1, c :: cs =>
    let spanned (low : Nat) (rest : List Char) : List UInt8 :=
      match rest with
      | '-' :: high :: rest => range low high.toNat ++ setOf fuel rest
      | rest => .ofNat low :: setOf fuel rest
    match c, cs with
    | '[', ':' :: 'u' :: 'p' :: 'p' :: 'e' :: 'r' :: ':' :: ']' :: rest =>
      range 65 90 ++ setOf fuel rest
    | '[', ':' :: 'l' :: 'o' :: 'w' :: 'e' :: 'r' :: ':' :: ']' :: rest =>
      range 97 122 ++ setOf fuel rest
    | '\\', escaped :: rest =>
      if octalDigit escaped then
        let digits := ((escaped :: rest).take 3).takeWhile octalDigit
        spanned (digits.foldl (fun n d => n * 8 + (d.toNat - 48)) 0)
          ((escaped :: rest).drop digits.length)
      else if escaped = 'n' then spanned 10 rest
      else if escaped = 't' then spanned 9 rest
      else if escaped = 'r' then spanned 13 rest
      else spanned escaped.toNat rest
    | c, rest =>
      if c.toNat < 128 then spanned c.toNat rest
      else Text.Utf8.encode [c] ++ setOf fuel rest

/-- Octets of the first set become those at the same places of the second, whose
last one stands for all that are missing. -/
def exchange (args : List String) (bytes : Bytes) : Bytes :=
  let set (text : String) : List UInt8 := setOf (text.length + 1) text.toList
  match args with
  | ["-d", gone] => bytes.filter fun b => !(set gone).contains b
  | [old, new] =>
    let new := set new
    bytes.map fun b =>
      match (set old).idxOf? b, new.getLast? with
      | some place, some final => new.getD place final
      | _, _ => b
  | _ => bytes

/-- Whole numbers from one to another. -/
def sequence (args : List String) : Bytes :=
  let numbers (first step last : Int) : List Int :=
    if step = 0 then []
    else
      let steps := Int.fdiv (last - first) step
      if steps < 0 then []
      else (List.range (steps.toNat + 1)).map fun n : Nat => first + step * n
  let shown (numbers : List Int) : Bytes :=
    numbers.flatMap fun n => Text.Utf8.encode (toString n).toList ++ [10]
  match args.map String.toInt? with
  | [some last] => shown (numbers 1 1 last)
  | [some first, some last] => shown (numbers first 1 last)
  | [some first, some step, some last] => shown (numbers first step last)
  | _ => []

end Filter

end NotebookKernel.Shell
