import NotebookKernel.Shell.Arithmetic
import NotebookKernel.Text.Utf8

/-!
Escapes in printed text, and formats that are filled with arguments. A format is
used again as long as it takes arguments and some are left.
-/

namespace NotebookKernel.Shell

open Text (Bytes)

namespace Format

def isOctal (b : UInt8) : Bool := 48 ≤ b && b ≤ 55

/-- The value of at most so many octal digits. -/
def octal : Nat → Nat → Bytes → Nat × Bytes
  | 0, value, rest => (value, rest)
  | _ + 1, value, [] => (value, [])
  | limit + 1, value, b :: rest =>
    if isOctal b then octal limit (value * 8 + (b.toNat - 48)) rest else (value, b :: rest)

/-- Behind a backslash: what the escape stands for. An unknown one stands for
itself. -/
def escape : Bytes → UInt8 × Bytes
  | [] => (92, [])
  | b :: rest =>
    if isOctal b then
      let (value, rest) := octal 3 0 (b :: rest)
      (.ofNat value, rest)
    else if b = 92 then (92, rest)
    else if b = 97 then (7, rest)
    else if b = 98 then (8, rest)
    else if b = 101 then (27, rest)
    else if b = 102 then (12, rest)
    else if b = 110 then (10, rest)
    else if b = 114 then (13, rest)
    else if b = 116 then (9, rest)
    else if b = 118 then (11, rest)
    else (92, b :: rest)

/-- Text with its escapes, and whether it goes on: one escape ends all output.
The fuel bounds the length of the text. -/
def unescapeFrom : Nat → Bytes → Bytes × Bool
  | 0, _ => ([], true)
  | _ + 1, [] => ([], true)
  | fuel + 1, b :: rest =>
    let onward (bytes : Bytes) (rest : Bytes) : Bytes × Bool :=
      let (more, goesOn) := unescapeFrom fuel rest
      (bytes ++ more, goesOn)
    let plain (b : UInt8) : Bool := b != 92
    if plain b then onward (b :: rest.takeWhile plain) (rest.dropWhile plain)
    else match rest with
      | 99 :: _ => ([], false)
      | 48 :: digits =>
        let (value, rest) := octal 3 0 digits
        onward [.ofNat value] rest
      | rest =>
        let (value, rest) := escape rest
        onward [value] rest

def unescape (bytes : Bytes) : Bytes × Bool :=
  unescapeFrom (bytes.length + 1) bytes

/-- How a directive of a format pads what it shows. -/
structure Field where
  left : Bool := false
  zeros : Bool := false
  plus : Bool := false
  blank : Bool := false
  sharp : Bool := false
  width : Nat := 0
  precision : Option Nat := none

def pad (field : Field) (bytes : Bytes) : Bytes :=
  let fill := List.replicate (field.width - bytes.length) 32
  if field.left then bytes ++ fill else fill ++ bytes

def digitsIn (base : Nat) (capital : Bool) (n : Nat) : Bytes :=
  Text.Utf8.encode ((Nat.toDigits base n).map fun c => if capital then c.toUpper else c)

/-- A number with its sign, in a field. -/
def padNumber (field : Field) (sign digits : Bytes) : Bytes :=
  let digits := List.replicate (field.precision.getD 0 - digits.length) 48 ++ digits
  if field.zeros && !field.left && field.precision.isNone then
    sign ++ List.replicate (field.width - sign.length - digits.length) 48 ++ digits
  else pad field (sign ++ digits)

def signed (field : Field) (n : Int) : Bytes :=
  let sign : Bytes :=
    if n < 0 then [45] else if field.plus then [43] else if field.blank then [32] else []
  padNumber field sign (digitsIn 10 false n.natAbs)

/-- What shows the base of a number. -/
def baseMark (base : Nat) (capital : Bool) : Bytes :=
  if base = 8 then [48] else if base = 16 then [48, if capital then 88 else 120] else []

def unsigned (field : Field) (base : Nat) (capital : Bool) (n : Int) : Bytes :=
  let mark := if field.sharp && n != 0 then baseMark base capital else []
  padNumber field mark (digitsIn base capital (n % Int.pow 2 64).toNat)

/-- The number that an argument starts with, and whether it is all of it. -/
def numberArgument (argument : Bytes) : Int × Bool :=
  let cs := (argument.map fun b => Char.ofNat b.toNat).dropWhile Arithmetic.isSpace
  match cs with
  | [] => (0, true)
  | '\'' :: c :: _ | '"' :: c :: _ => (c.toNat, true)
  | cs =>
    let (negative, cs) : Bool × List Char := match cs with
      | '-' :: rest => (true, rest)
      | '+' :: rest => (false, rest)
      | cs => (false, cs)
    let lengths := (List.range (cs.length + 1)).reverse
    let valueAt (n : Nat) : Option (Int × Nat) := (Arithmetic.numberOf (cs.take n)).map (·, n)
    match lengths.findSome? valueAt with
    | some (value, n) => (if negative then -value else value, n == cs.length)
    | none => (0, false)

structure Output where
  bytes : Bytes := []
  arguments : List Bytes
  failed : Bool := false
  /-- An escape has ended the output. -/
  stopped : Bool := false
  /-- Some argument was asked for. -/
  used : Bool := false

def flags (field : Field) : Bytes → Field × Bytes
  | [] => (field, [])
  | b :: rest =>
    if b = 45 then flags { field with left := true } rest
    else if b = 48 then flags { field with zeros := true } rest
    else if b = 43 then flags { field with plus := true } rest
    else if b = 32 then flags { field with blank := true } rest
    else if b = 35 then flags { field with sharp := true } rest
    else (field, b :: rest)

def isDigit (b : UInt8) : Bool := 48 ≤ b && b ≤ 57

def decimal (bytes : Bytes) : Nat × Bytes :=
  ((bytes.takeWhile isDigit).foldl (fun n b => n * 10 + (b.toNat - 48)) 0, bytes.dropWhile isDigit)

/-- A width or precision; a star takes it from the arguments. -/
def measure (out : Output) (bytes : Bytes) : Nat × Output × Bytes :=
  match bytes with
  | 42 :: rest =>
    let (n, whole) := numberArgument (out.arguments.headD [])
    (n.toNat,
      { out with arguments := out.arguments.drop 1, failed := out.failed || !whole, used := true },
      rest)
  | bytes => ((decimal bytes).1, out, (decimal bytes).2)

def directive (bytes : Bytes) (out : Output) : Field × Output × Bytes :=
  let (field, rest) := flags {} bytes
  let (width, out, rest) := measure out rest
  let field := { field with width }
  match rest with
  | 46 :: rest =>
    let (precision, out, rest) := measure out rest
    ({ field with precision := some precision }, out, rest)
  | rest => (field, out, rest)

/-- One argument in its field. -/
def convert (letter : UInt8) (field : Field) (out : Output) : Output :=
  let argument := out.arguments.headD []
  let rest := { out with arguments := out.arguments.drop 1, used := true }
  let cut (bytes : Bytes) : Bytes := match field.precision with
    | some n => bytes.take n
    | none => bytes
  let number (render : Int → Bytes) : Output :=
    let (n, whole) := numberArgument argument
    { rest with bytes := out.bytes ++ render n, failed := out.failed || !whole }
  if letter = 115 then { rest with bytes := out.bytes ++ pad field (cut argument) }
  else if letter = 98 then
    let (bytes, goesOn) := unescape argument
    { rest with bytes := out.bytes ++ pad field (cut bytes), stopped := !goesOn }
  else if letter = 99 then { rest with bytes := out.bytes ++ pad field (argument.take 1) }
  else if letter = 100 ∨ letter = 105 then number (signed field)
  else if letter = 117 then number (unsigned field 10 false)
  else if letter = 111 then number (unsigned field 8 false)
  else if letter = 120 then number (unsigned field 16 false)
  else if letter = 88 then number (unsigned field 16 true)
  else { out with failed := true, stopped := true }

/-- One use of a format. The fuel bounds its length. -/
def once : Nat → Bytes → Output → Output
  | 0, _, out => out
  | _ + 1, [], out => out
  | fuel + 1, b :: rest, out =>
    if out.stopped then out
    else if b = 92 then
      let (value, rest) := escape rest
      once fuel rest { out with bytes := out.bytes ++ [value] }
    else if b = 37 then
      match rest with
      | 37 :: rest => once fuel rest { out with bytes := out.bytes ++ [37] }
      | rest =>
        match directive rest out with
        | (_, out, []) => { out with failed := true, stopped := true }
        | (field, out, letter :: rest) => once fuel rest (convert letter field out)
    else
      let plain (b : UInt8) : Bool := b != 92 && b != 37
      once fuel (rest.dropWhile plain)
        { out with bytes := out.bytes ++ b :: rest.takeWhile plain }

def again (format : Bytes) : Nat → Output → Output
  | 0, out => out
  | fuel + 1, out =>
    let out := once (format.length + 1) format { out with used := false }
    if out.stopped || !out.used || out.arguments.isEmpty then out else again format fuel out

/-- What a format prints, and whether all went well. -/
def fill (format : Bytes) (arguments : List Bytes) : Bytes × Bool :=
  let out := again format (arguments.length + 1) { arguments }
  (out.bytes, !out.failed)

end Format

end NotebookKernel.Shell
