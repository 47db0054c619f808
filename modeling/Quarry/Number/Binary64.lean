/-!
Non-negative binary numbers of 64 bits: a significand below `2 ^ 53` and a power of two. Every
operation rounds the exact result to the nearest such number, a tie to the even significand, and has
no value above the largest one.
-/

namespace Quarry

/-- Stands for `significand * 2 ^ exponent`. -/
structure Binary64 where
  significand : Nat
  exponent : Int
  deriving DecidableEq, Repr

namespace Binary64

/-- The exponent of the smallest positive number. -/
def minExponent : Int := -1074

/-- The exponent of the largest number. -/
def maxExponent : Int := 971

def zero : Binary64 := ⟨0, minExponent⟩

/-- The fraction `numerator / denominator * 2 ^ -exponent`. -/
def scale (numerator denominator : Nat) (exponent : Int) : Nat × Nat :=
  (numerator * Nat.pow 2 (-exponent).toNat, denominator * Nat.pow 2 exponent.toNat)

/-- The exponent at which the fraction has a significand of 53 bits, or the smallest one. -/
def exponentOf (numerator denominator : Nat) : Int :=
  let estimate : Int := (numerator.log2 : Int) - denominator.log2 - 52
  let (scaled, unit) := scale numerator denominator estimate
  max minExponent (if scaled < unit * Nat.pow 2 52 then estimate - 1 else estimate)

/-- The number nearest to a fraction, if the fraction is not beyond the largest number. -/
def ofFraction? (numerator denominator : Nat) : Option Binary64 :=
  let exponent := exponentOf numerator denominator
  let (scaled, unit) := scale numerator denominator exponent
  let quotient := scaled / unit
  let twiceRest := 2 * (scaled % unit)
  let roundsUp := unit < twiceRest || (twiceRest == unit && quotient % 2 == 1)
  let significand := if roundsUp then quotient + 1 else quotient
  let (significand, exponent) :=
    if significand = Nat.pow 2 53 then (Nat.pow 2 52, exponent + 1) else (significand, exponent)
  if significand = 0 then some zero
  else if maxExponent < exponent then none
  else some ⟨significand, exponent⟩

def numerator (x : Binary64) : Nat := x.significand * Nat.pow 2 x.exponent.toNat

def denominator (x : Binary64) : Nat := Nat.pow 2 (-x.exponent).toNat

def mul? (x y : Binary64) : Option Binary64 :=
  ofFraction? (x.numerator * y.numerator) (x.denominator * y.denominator)

def div? (x y : Binary64) : Option Binary64 :=
  ofFraction? (x.numerator * y.denominator) (x.denominator * y.numerator)

end Binary64

end Quarry
