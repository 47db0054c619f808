import Quarry.Number.Binary64

/-!
The shortest decimal text of a binary number: the fewest digits that no other number is nearer to,
and of those the nearest ones. The text is positional while the leading digit stands between the
fifth place after the point and the sixteenth before it, and scientific outside.
-/

namespace Quarry.Binary64

/-- How many decimal digits a number has; none for zero. -/
def digitCount (n : Nat) : Nat :=
  if n = 0 then 0 else (Nat.toDigits 10 n).length

/-- The exponent of the leading decimal digit. -/
def leadingExponent (x : Binary64) : Int :=
  if x.denominator ≤ x.numerator then (digitCount (x.numerator / x.denominator) : Int) - 1
  else -(digitCount ((x.denominator + x.numerator - 1) / x.numerator - 1) : Int)

/-- Whether `digits * 10 ^ power` rounds to the number. The distance to the neighbour below is half as
long at a power of two, and the ends of the interval belong to it when the significand is even. -/
def isReadFrom (x : Binary64) (digits : Nat) (power : Int) : Bool :=
  let (value, unit) := (digits * Nat.pow 10 power.toNat, Nat.pow 10 (-power).toNat)
  let left := 4 * value * x.denominator
  let step := unit * Nat.pow 2 x.exponent.toNat
  let middle := 4 * x.significand * step
  let below :=
    if x.significand = Nat.pow 2 52 ∧ minExponent < x.exponent then step else 2 * step
  let (low, high) := (middle - below, middle + 2 * step)
  if x.significand % 2 = 0 then low ≤ left && left ≤ high else low < left && left < high

/-- The distance of `digits * 10 ^ power` to the number, in a unit that depends on `power` alone. -/
def distance (x : Binary64) (digits : Nat) (power : Int) : Nat :=
  let value := digits * Nat.pow 10 power.toNat * x.denominator
  let exact := x.numerator * Nat.pow 10 (-power).toNat
  max value exact - min value exact

/-- The decimals next to the number at `power`, below and above, that are read as the number; of two
the nearer one. -/
def decimalAt? (x : Binary64) (power : Int) : Option Nat :=
  let below := x.numerator * Nat.pow 10 (-power).toNat / (x.denominator * Nat.pow 10 power.toNat)
  match x.isReadFrom below power, x.isReadFrom (below + 1) power with
  | true, true =>
    let (lower, upper) := (x.distance below power, x.distance (below + 1) power)
    if lower < upper || (lower == upper && below % 2 == 0) then some below else some (below + 1)
  | true, false => some below
  | false, true => some (below + 1)
  | false, false => none

/-- The shortest decimal, as a whole number and a power of ten. Seventeen digits are always enough. -/
def shortest (x : Binary64) : Nat × Int :=
  let leading := x.leadingExponent
  let found := (List.range 17).findSome? fun (more : Nat) =>
    (x.decimalAt? (leading - more)).map fun decimal => (decimal, leading - more)
  found.getD (x.significand, 0)

def positional (digits : List Char) (leading : Int) : List Char :=
  if leading < 0 then
    '0' :: '.' :: List.replicate ((-leading).toNat - 1) '0' ++ digits
  else
    let before := leading.toNat + 1
    let padded := digits ++ List.replicate (before - digits.length) '0'
    let after := padded.drop before
    padded.take before ++ '.' :: (if after.isEmpty then ['0'] else after)

def scientific (digits : List Char) (leading : Int) : List Char :=
  let after := digits.drop 1
  let fraction := if after.isEmpty then [] else '.' :: after
  let sign := if leading < 0 then '-' else '+'
  digits.take 1 ++ fraction ++ 'e' :: sign :: Nat.toDigits 10 leading.natAbs

def letters (x : Binary64) : List Char :=
  if x.significand = 0 then ['0', '.', '0']
  else
    let (decimal, power) := x.shortest
    let written := Nat.toDigits 10 decimal
    let leading := power + written.length - 1
    let digits := (written.reverse.dropWhile (· = '0')).reverse
    if -5 ≤ leading ∧ leading ≤ 15 then positional digits leading else scientific digits leading

end Quarry.Binary64
