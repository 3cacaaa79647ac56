/-!
Finite binary64 numbers as exact fractions: a sign, a significand below 2^53 and
a power of two. Every operation takes the exact result and rounds it once, to
the nearest number, a tie to the even significand.
-/

namespace NotebookKernel

structure Binary64 where
  negative : Bool
  significand : Nat
  exponent : Int
  deriving DecidableEq, Repr

namespace Binary64

/-- The least exponent, shared by zero and the subnormal numbers. -/
def leastExponent : Int := -1074

def greatestExponent : Int := 971

def zero (negative : Bool) : Binary64 := ⟨negative, 0, leastExponent⟩

def isZero (x : Binary64) : Bool := x.significand == 0

/-- The fraction `num / den` in units of `2 ^ e`. -/
def inUnits (num den : Nat) (e : Int) : Nat × Nat :=
  if 0 ≤ e then (num, den * Nat.pow 2 e.toNat) else (num * Nat.pow 2 (-e).toNat, den)

/-- The quotient to the nearest integer, a tie to the even one. -/
def roundHalfEven (num den : Nat) : Nat :=
  let q := num / den
  let r := num % den
  if 2 * r < den then q
  else if 2 * r = den then (if q % 2 = 0 then q else q + 1)
  else q + 1

/-- The exponent that gives `num / den` 53 significant bits, or the least one. -/
def unitExponent (num den : Nat) : Int :=
  let guess : Int := (num.log2 : Int) - (den.log2 : Int) - 52
  let (n, d) := inUnits num den guess
  max leastExponent (if n < Nat.pow 2 52 * d then guess - 1 else guess)

/-- The nearest number to `num / den`; none if it is out of range. -/
def ofFraction (negative : Bool) (num den : Nat) : Option Binary64 :=
  if num = 0 then some (zero negative)
  else
    let e := unitExponent num den
    let (n, d) := inUnits num den e
    let m := roundHalfEven n d
    let (m, e) := if m = Nat.pow 2 53 then (Nat.pow 2 52, e + 1) else (m, e)
    if greatestExponent < e then none else some ⟨negative, m, e⟩

/-- The magnitude as a fraction. -/
def fraction (x : Binary64) : Nat × Nat :=
  if 0 ≤ x.exponent then (x.significand * Nat.pow 2 x.exponent.toNat, 1)
  else (x.significand, Nat.pow 2 (-x.exponent).toNat)

def mul (x y : Binary64) : Option Binary64 :=
  let (a, b) := x.fraction
  let (c, d) := y.fraction
  ofFraction (x.negative != y.negative) (a * c) (b * d)

def div (x y : Binary64) : Option Binary64 :=
  let (a, b) := x.fraction
  let (c, d) := y.fraction
  ofFraction (x.negative != y.negative) (a * d) (b * c)

end Binary64

end NotebookKernel
