/-!
UTF-8 over lists of octets. Reading cuts a text into characters and maximal
ill-formed stretches, so that strict reading, repair and the place of the first
fault all come from one scan.
-/

namespace NotebookKernel.Text

abbrev Bytes := List UInt8

namespace Utf8

def encodeChar (c : Char) : Bytes :=
  let n := c.toNat
  if n < 0x80 then [.ofNat n]
  else if n < 0x800 then [.ofNat (0xC0 + n / 64), .ofNat (0x80 + n % 64)]
  else if n < 0x10000 then
    [.ofNat (0xE0 + n / 4096), .ofNat (0x80 + n / 64 % 64), .ofNat (0x80 + n % 64)]
  else
    [.ofNat (0xF0 + n / 262144), .ofNat (0x80 + n / 4096 % 64),
      .ofNat (0x80 + n / 64 % 64), .ofNat (0x80 + n % 64)]

def encode (cs : List Char) : Bytes :=
  cs.flatMap encodeChar

def width (c : Char) : Nat :=
  (encodeChar c).length

def size (cs : List Char) : Nat :=
  (encode cs).length

inductive Piece where
  | good (c : Char)
  /-- A stretch that no continuation makes a character. -/
  | bad (length : Nat)
  /-- The octets end inside a character. -/
  | cut (length : Nat)
  deriving DecidableEq, Repr

def Piece.length : Piece → Nat
  | .good c => width c
  | .bad n => n
  | .cut n => n

/-- Inside a character: what it is worth so far, how many octets were seen, how
many are missing, and the bounds of the next one. -/
structure Partial where
  value : Nat
  seen : Nat
  missing : Nat
  low : Nat
  high : Nat

/-- What a first octet opens. -/
def lead (b : Nat) : Except Piece Partial :=
  if b < 0x80 then .error (.good (Char.ofNat b))
  else if b < 0xC2 then .error (.bad 1)
  else if b < 0xE0 then .ok ⟨b - 0xC0, 1, 1, 0x80, 0xBF⟩
  else if b = 0xE0 then .ok ⟨0, 1, 2, 0xA0, 0xBF⟩
  else if b = 0xED then .ok ⟨13, 1, 2, 0x80, 0x9F⟩
  else if b < 0xF0 then .ok ⟨b - 0xE0, 1, 2, 0x80, 0xBF⟩
  else if b = 0xF0 then .ok ⟨0, 1, 3, 0x90, 0xBF⟩
  else if b < 0xF4 then .ok ⟨b - 0xF0, 1, 3, 0x80, 0xBF⟩
  else if b = 0xF4 then .ok ⟨4, 1, 3, 0x80, 0x8F⟩
  else .error (.bad 1)

/-- An octet that cannot go on ends the stretch before it and starts afresh. -/
def scan : Option Partial → Bytes → List Piece
  | none, [] => []
  | some p, [] => [.cut p.seen]
  | none, b :: rest =>
    match lead b.toNat with
    | .error piece => piece :: scan none rest
    | .ok p => scan (some p) rest
  | some p, b :: rest =>
    if p.low ≤ b.toNat ∧ b.toNat ≤ p.high then
      let value := p.value * 64 + b.toNat % 64
      if p.missing ≤ 1 then .good (Char.ofNat value) :: scan none rest
      else scan (some ⟨value, p.seen + 1, p.missing - 1, 0x80, 0xBF⟩) rest
    else
      .bad p.seen ::
        match lead b.toNat with
        | .error piece => piece :: scan none rest
        | .ok q => scan (some q) rest

def pieces (bytes : Bytes) : List Piece :=
  scan none bytes

/-- The first fault: where it is, and its length unless the text just ends. -/
structure Fault where
  index : Nat
  length : Option Nat
  deriving DecidableEq, Repr

def Fault.message (fault : Fault) : String :=
  match fault.length with
  | some n => s!"invalid utf-8 sequence of {n} bytes from index {fault.index}"
  | none => s!"incomplete utf-8 byte sequence from index {fault.index}"

def join (index : Nat) : List Piece → Except Fault (List Char)
  | [] => .ok []
  | .good c :: rest => (join (index + width c) rest).map (c :: ·)
  | .bad n :: _ => .error ⟨index, some n⟩
  | .cut _ :: _ => .error ⟨index, none⟩

def decode (bytes : Bytes) : Except Fault (List Char) :=
  join 0 (pieces bytes)

/-- Each ill-formed stretch becomes one replacement character. -/
def repair (bytes : Bytes) : List Char :=
  (pieces bytes).map fun
    | .good c => c
    | .bad _ => '\ufffd'
    | .cut _ => '\ufffd'

end Utf8

end NotebookKernel.Text
