/-!
Lengths of time to the nanosecond, written in the largest unit that is not below
one, with as many decimals as are needed.
-/

namespace NotebookKernel

structure Duration where
  nanos : Nat
  deriving DecidableEq, Repr

namespace Duration

def ofSeconds (n : Nat) : Duration := ⟨n * 1000000000⟩

def ofMillis (n : Nat) : Duration := ⟨n * 1000000⟩

/-- The decimals of `part` of a unit that has `10 ^ places` parts. -/
def decimals (places part : Nat) : List Char :=
  let digits := Nat.toDigits 10 part
  let padded := List.replicate (places - digits.length) '0' ++ digits
  (padded.reverse.dropWhile (· == '0')).reverse

def inUnit (nanos places : Nat) (unit : String) : String :=
  let fraction := decimals places (nanos % Nat.pow 10 places)
  let point := if fraction.isEmpty then "" else "." ++ String.ofList fraction
  s!"{nanos / Nat.pow 10 places}{point}{unit}"

def text (d : Duration) : String :=
  if 1000000000 ≤ d.nanos then inUnit d.nanos 9 "s"
  else if 1000000 ≤ d.nanos then inUnit d.nanos 6 "ms"
  else if 1000 ≤ d.nanos then inUnit d.nanos 3 "µs"
  else s!"{d.nanos}ns"

end Duration

end NotebookKernel
