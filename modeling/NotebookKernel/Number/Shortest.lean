import NotebookKernel.Number.Binary64

/-!
The fewest decimal digits that read back as the same number, and of those the
nearest. Numbers of middling size are written positionally with at least one
decimal place, the others with an exponent.
-/

namespace NotebookKernel.Binary64

/-- A positive decimal `digits * 10 ^ power`. -/
structure Decimal where
  digits : Nat
  power : Int
  deriving DecidableEq, Repr

/-- The reals that round to a positive number, as fractions over one
denominator; the ends belong to it if the significand is even. -/
structure Interval where
  low : Nat
  value : Nat
  high : Nat
  den : Nat
  closed : Bool

/-- Below a power of two the neighbour is half as far. -/
def interval (x : Binary64) : Interval :=
  let m := x.significand
  let below := if m = Nat.pow 2 52 ∧ leastExponent < x.exponent then 1 else 2
  let scale (n : Nat) := if 0 ≤ x.exponent then n * Nat.pow 2 x.exponent.toNat else n
  let den := if 0 ≤ x.exponent then 4 else 4 * Nat.pow 2 (-x.exponent).toNat
  ⟨scale (4 * m - below), scale (4 * m), scale (4 * m + 2), den, m % 2 == 0⟩

/-- Whether `digits * 10 ^ power` lies in the interval. -/
def Interval.holds (i : Interval) (digits : Nat) (power : Int) : Bool :=
  let num := if 0 ≤ power then digits * Nat.pow 10 power.toNat * i.den else digits * i.den
  let unit := if 0 ≤ power then 1 else Nat.pow 10 (-power).toNat
  if i.closed then i.low * unit ≤ num && num ≤ i.high * unit
  else i.low * unit < num && num < i.high * unit

/-- The number of digits before the point, or minus the zeros after it. -/
def magnitude (num den : Nat) : Int :=
  if den ≤ num then ((Nat.toDigits 10 (num / den)).length : Int)
  else 1 - ((Nat.toDigits 10 ((den - 1) / num)).length : Int)

/-- The two neighbours with `n` digits, the nearer first; of two equally near
the even one. -/
def neighbours (i : Interval) (power : Int) : Nat × Nat :=
  let num := if 0 ≤ power then i.value else i.value * Nat.pow 10 (-power).toNat
  let den := if 0 ≤ power then i.den * Nat.pow 10 power.toNat else i.den
  let q := num / den
  let r := num % den
  if 2 * r < den ∨ (2 * r = den ∧ q % 2 = 0) then (q, q + 1) else (q + 1, q)

def withDigits (i : Interval) (point : Int) (n : Nat) : Option Decimal :=
  let power := point - n
  let (near, far) := neighbours i power
  if i.holds near power then some ⟨near, power⟩
  else if i.holds far power then some ⟨far, power⟩
  else none

/-- Seventeen digits always read back. -/
def shortest (x : Binary64) : Decimal :=
  let i := x.interval
  let point := magnitude i.value i.den
  ((List.range 17).findSome? fun n => withDigits i point (n + 1)).getD ⟨x.significand, 0⟩

/-- Zeros at the end move into the power. -/
def Decimal.trimmed (d : Decimal) : List Char × Int :=
  let cs := Nat.toDigits 10 d.digits
  let kept := (cs.reverse.dropWhile (· == '0')).reverse
  (kept, d.power + (cs.length - kept.length : Nat))

/-- Positional from 1e-5 up to 1e16. -/
def text (x : Binary64) : String :=
  let sign := if x.negative then "-" else ""
  if x.isZero then sign ++ "0.0"
  else
    let (digits, power) := x.shortest.trimmed
    let point := power + digits.length
    let body : List Char :=
      if 0 ≤ power ∧ point ≤ 16 then
        digits ++ List.replicate power.toNat '0' ++ ['.', '0']
      else if 0 < point ∧ point ≤ 16 then
        digits.take point.toNat ++ '.' :: digits.drop point.toNat
      else if -5 < point ∧ point ≤ 0 then
        '0' :: '.' :: List.replicate (-point).toNat '0' ++ digits
      else
        let mantissa := match digits with
          | [d] => [d]
          | d :: rest => d :: '.' :: rest
          | [] => []
        let e := point - 1
        mantissa ++ 'e' :: (if 0 ≤ e then '+' else '-') :: Nat.toDigits 10 e.natAbs
    sign ++ .ofList body

end NotebookKernel.Binary64
