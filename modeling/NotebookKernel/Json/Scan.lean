import NotebookKernel.Json.Error

/-!
The small parts of a JSON text: blanks, key words, strings and numbers. A string
is read behind its opening quote, a number from its first digit.
-/

namespace NotebookKernel.Json

def isSpace (c : Char) : Bool :=
  c == ' ' || c == '\t' || c == '\n' || c == '\r'

def skip (cs : List Char) : List Char :=
  cs.dropWhile isSpace

/-- The rest of a key word. -/
def keyword : List Char → List Char → Except Stop (List Char)
  | [], cs => .ok cs
  | _ :: _, [] => .error (.behind .endInValue [])
  | k :: ks, c :: cs =>
    if k = c then keyword ks cs else .error (.next .expectedIdent (c :: cs))

def isDigit (c : Char) : Bool := '0' ≤ c && c ≤ '9'

def digitValue (c : Char) : Nat := c.toNat - '0'.toNat

def hexValue? (c : Char) : Option Nat :=
  if isDigit c then some (digitValue c)
  else if 'a' ≤ c ∧ c ≤ 'f' then some (c.toNat - 'a'.toNat + 10)
  else if 'A' ≤ c ∧ c ≤ 'F' then some (c.toNat - 'A'.toNat + 10)
  else none

/-- Four octets are taken, whatever they are. -/
def hex4 (cs : List Char) : Reading Nat :=
  match cs with
  | a :: b :: c :: d :: rest =>
    match hexValue? a, hexValue? b, hexValue? c, hexValue? d with
    | some a, some b, some c, some d => .ok (((a * 16 + b) * 16 + c) * 16 + d, rest)
    | _, _, _, _ => .error ⟨.invalidEscape, cs, 4⟩
  | _ =>
    if Text.Utf8.size cs < 4 then .error (.behind .endInString [])
    else .error ⟨.invalidEscape, cs, 4⟩

def isLeadingSurrogate (n : Nat) : Bool := 0xD800 ≤ n && n ≤ 0xDBFF

def isTrailingSurrogate (n : Nat) : Bool := 0xDC00 ≤ n && n ≤ 0xDFFF

def surrogatePair (high low : Nat) : Char :=
  Char.ofNat ((high - 0xD800) * 0x400 + (low - 0xDC00) + 0x10000)

/-- Next comes the second half of a pair. -/
def trailing (high : Nat) : List Char → Reading Char
  | [] => .error (.behind .endInString [])
  | '\\' :: rest =>
    match rest with
    | [] => .error (.behind .endInString [])
    | 'u' :: rest =>
      match hex4 rest with
      | .error stop => .error stop
      | .ok (low, rest) =>
        if isTrailingSurrogate low then .ok (surrogatePair high low, rest)
        else .error (.behind .loneSurrogate rest)
    | rest => .error (.next .unexpectedEndOfEscape rest)
  | rest => .error (.next .unexpectedEndOfEscape rest)

def unicodeEscape (cs : List Char) : Reading Char :=
  match hex4 cs with
  | .error stop => .error stop
  | .ok (n, rest) =>
    if isTrailingSurrogate n then .error (.behind .loneSurrogate rest)
    else if isLeadingSurrogate n then trailing n rest
    else .ok (Char.ofNat n, rest)

def shortEscape? (c : Char) : Option Char :=
  if c = '"' then some '"'
  else if c = '\\' then some '\\'
  else if c = '/' then some '/'
  else if c = 'b' then some '\x08'
  else if c = 'f' then some '\x0c'
  else if c = 'n' then some '\n'
  else if c = 'r' then some '\r'
  else if c = 't' then some '\t'
  else none

/-- What stands behind a backslash. -/
def escape : List Char → Reading Char
  | [] => .error (.behind .endInString [])
  | c :: rest =>
    if c = 'u' then unicodeEscape rest
    else match shortEscape? c with
      | some plain => .ok (plain, rest)
      | none => .error (.next .invalidEscape (c :: rest))

theorem hex4_shorter {cs rest : List Char} {n : Nat} (h : hex4 cs = .ok (n, rest)) :
    rest.length < cs.length := by
  unfold hex4 at h
  split at h
  · split at h
    · injection h with h
      injection h with _ h
      subst h
      simp only [List.length_cons]
      omega
    · contradiction
  · split at h <;> contradiction

theorem trailing_shorter {high : Nat} {cs rest : List Char} {c : Char}
    (h : trailing high cs = .ok (c, rest)) : rest.length < cs.length := by
  unfold trailing at h
  split at h
  · contradiction
  · split at h
    · contradiction
    · split at h
      · contradiction
      · rename_i hread
        split at h
        · injection h with h
          injection h with _ h
          subst h
          have := hex4_shorter hread
          simp only [List.length_cons]
          omega
        · contradiction
    · contradiction
  · contradiction

theorem unicodeEscape_shorter {cs rest : List Char} {c : Char}
    (h : unicodeEscape cs = .ok (c, rest)) : rest.length < cs.length := by
  unfold unicodeEscape at h
  split at h
  · contradiction
  · rename_i hread
    have first := hex4_shorter hread
    split at h
    · contradiction
    · split at h
      · have := trailing_shorter h
        omega
      · injection h with h
        injection h with _ h
        subst h
        exact first

theorem escape_shorter {cs rest : List Char} {c : Char} (h : escape cs = .ok (c, rest)) :
    rest.length < cs.length := by
  unfold escape at h
  split at h
  · contradiction
  · split at h
    · have := unicodeEscape_shorter h
      simp only [List.length_cons]
      omega
    · split at h
      · injection h with h
        injection h with _ h
        subst h
        simp
      · contradiction

/-- The characters up to the closing quote. -/
def stringBody : List Char → Reading (List Char)
  | [] => .error (.behind .endInString [])
  | c :: rest =>
    if c = '"' then .ok ([], rest)
    else if c = '\\' then
      match h : escape rest with
      | .error stop => .error stop
      | .ok (plain, rest') =>
        have := escape_shorter h
        match stringBody rest' with
        | .error stop => .error stop
        | .ok (body, tail) => .ok (plain :: body, tail)
    else if c < ' ' then .error (.next .controlCharacter (c :: rest))
    else match stringBody rest with
      | .error stop => .error stop
      | .ok (body, tail) => .ok (c :: body, tail)
termination_by cs => cs.length

def string (cs : List Char) : Reading String :=
  (stringBody cs).map fun (body, rest) => (.ofList body, rest)

def greatestUnsigned : Nat := Nat.pow 2 64 - 1

/-- Digits are taken as long as the number they make fits 64 bits. -/
def fitting (n : Nat) : List Char → Nat × List Char
  | [] => (n, [])
  | c :: rest =>
    if isDigit c && n * 10 + digitValue c ≤ greatestUnsigned then
      fitting (n * 10 + digitValue c) rest
    else (n, c :: rest)

def startsWithDigit : List Char → Bool
  | [] => false
  | c :: _ => isDigit c

/-- The powers of ten that a number is scaled by are rounded themselves. -/
def powerOfTen (n : Nat) : Option Binary64 :=
  Binary64.ofFraction false (Nat.pow 10 n) 1

/-- Divides by the largest power of ten so many times, or until nothing is left. -/
def sink : Nat → Binary64 → Option Binary64
  | 0, x => some x
  | steps + 1, x =>
    if x.isZero then some x
    else (powerOfTen 308).bind fun p => (x.div p).bind (sink steps)

/-- Multiplies or divides by the power of ten; one that is too small for a
single step is reached by several. None if the result is out of range. -/
def rescale (x : Binary64) (power : Int) : Option Binary64 :=
  if power < 0 then
    let steps := (power.natAbs - 1) / 308
    (sink steps x).bind fun y => (powerOfTen (power.natAbs - 308 * steps)).bind y.div
  else if power ≤ 308 then (powerOfTen power.natAbs).bind x.mul
  else if x.isZero then some x
  else none

def floating (negative : Bool) (significand : Nat) (power : Int) (rest : List Char) :
    Reading Json :=
  match (Binary64.ofFraction negative significand 1).bind fun x => rescale x power with
  | some x => .ok (.float x, rest)
  | none => .error (.behind .numberOutOfRange rest)

def greatestExponentDigits : Nat := Nat.pow 2 31 - 1

/-- The digits of an exponent; the flag tells that they make too large a number
and where. -/
def exponentDigits (n : Nat) : List Char → Nat × Bool × List Char
  | [] => (n, false, [])
  | c :: rest =>
    if isDigit c then
      if greatestExponentDigits < n * 10 + digitValue c then (n, true, rest)
      else exponentDigits (n * 10 + digitValue c) rest
    else (n, false, c :: rest)

/-- Behind the letter that opens an exponent. -/
def exponent (negative : Bool) (significand : Nat) (power : Int) (cs : List Char) :
    Reading Json :=
  let (down, cs) := match cs with
    | '+' :: rest => (false, rest)
    | '-' :: rest => (true, rest)
    | _ => (false, cs)
  match cs with
  | [] => .error (.behind .endInValue [])
  | c :: rest =>
    if !isDigit c then .error (.next .invalidNumber (c :: rest))
    else
      let (n, tooLarge, rest) := exponentDigits (digitValue c) rest
      if tooLarge then
        if significand ≠ 0 ∧ !down then .error (.behind .numberOutOfRange rest)
        else .ok (.float (.zero negative), rest.dropWhile isDigit)
      else floating negative significand (if down then power - n else power + n) rest

/-- Behind all digits before an exponent. -/
def scaled (negative : Bool) (significand : Nat) (power : Int) (cs : List Char) :
    Reading Json :=
  match cs with
  | c :: rest =>
    if c = 'e' ∨ c = 'E' then exponent negative significand power rest
    else floating negative significand power cs
  | [] => floating negative significand power []

/-- Behind the decimal point. Digits beyond 64 bits are dropped. -/
def decimals (negative : Bool) (significand : Nat) (power : Int) (cs : List Char) :
    Reading Json :=
  let (n, rest) := fitting significand cs
  let taken := cs.length - rest.length
  if startsWithDigit rest then
    scaled negative n (power - taken) (rest.dropWhile isDigit)
  else if taken = 0 then
    .error (.next (if rest.isEmpty then .endInValue else .invalidNumber) rest)
  else scaled negative n (power - taken) rest

/-- An integer that fits; a larger one, and minus zero, are floating. -/
def integer (negative : Bool) (n : Nat) : Json :=
  if !negative then .int n
  else if n = 0 ∨ Nat.pow 2 63 < n then
    match Binary64.ofFraction true n 1 with
    | some x => .float x
    | none => .int (-n)
  else .int (-n)

/-- Behind the digits before the point that fit. Digits beyond 64 bits only
scale the number. -/
def afterInteger (negative : Bool) (n : Nat) (cs : List Char) : Reading Json :=
  let long := startsWithDigit cs
  let power : Int := (cs.takeWhile isDigit).length
  match cs.dropWhile isDigit with
  | '.' :: rest => decimals negative n power rest
  | rest =>
    if long || rest.head? == some 'e' || rest.head? == some 'E' then
      scaled negative n power rest
    else .ok (integer negative n, rest)

def number (negative : Bool) (cs : List Char) : Reading Json :=
  match cs with
  | [] => .error (.behind .endInValue [])
  | c :: rest =>
    if c = '0' then
      if startsWithDigit rest then .error (.next .invalidNumber rest)
      else afterInteger negative 0 rest
    else if isDigit c then
      let (n, rest) := fitting (digitValue c) rest
      afterInteger negative n rest
    else .error (.next .invalidNumber (c :: rest))

end NotebookKernel.Json
