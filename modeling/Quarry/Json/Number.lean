import Quarry.Json.Error

/-!
JSON numbers. A number without fraction and exponent is an integer if it fits 64 bits, unsigned when
positive and signed when negative; every other number, `-0` included, is a decimal. The significand
of a decimal takes digits as long as it fits 64 bits; it is then multiplied or divided by a power of
ten, so the value may be one rounding away from the nearest.
-/

namespace Quarry.Json

inductive Number where
  | integer (value : Int)
  | decimal (negative : Bool) (value : Binary64)
  deriving DecidableEq, Repr

def Number.found : Number → Found
  | .integer value => .integer value
  | .decimal negative value => .decimal negative value

/-- The first number that does not fit 64 bits without a sign. -/
def unsignedLimit : Nat := 18446744073709551616

/-- The first number that does not fit 64 bits with a sign. -/
def signedLimit : Nat := 9223372036854775808

/-- The number of 64 bits that a JSON number stands for. Decimals are refused even if they are whole. -/
def Number.toInt64 (number : Number) : Except Error Int64 :=
  match number with
  | .decimal negative value => .error (.wrongType (.decimal negative value) "i64")
  | .integer value =>
    if value < signedLimit then .ok (Int64.ofInt value)
    else .error (.wrongValue (.integer value) "i64")

/-- The pieces of a number's text. -/
structure NumberText where
  negative : Bool
  whole : List Char
  fraction : Option (List Char)
  exponent : Option (Bool × List Char)

namespace NumberText

/-- Reads at least one digit. `atEnd` is the error for a text that ends instead. -/
def readDigits (atEnd : Error) (text : List Char) : Except Error (List Char × List Char) :=
  if (text.takeWhile Char.isDigit).isEmpty then
    .error (if text.isEmpty then atEnd else .invalidNumber)
  else .ok (text.takeWhile Char.isDigit, text.dropWhile Char.isDigit)

def readWhole (atEnd : Error) (text : List Char) : Except Error (List Char × List Char) :=
  match readDigits atEnd text with
  | .error e => .error e
  | .ok ('0' :: _ :: _, _) => .error .invalidNumber
  | .ok (digits, rest) => .ok (digits, rest)

def readFraction (atEnd : Error) (text : List Char) :
    Except Error (Option (List Char) × List Char) :=
  match text with
  | '.' :: rest =>
    match readDigits atEnd rest with
    | .error e => .error e
    | .ok (digits, rest) => .ok (some digits, rest)
  | _ => .ok (none, text)

def readExponent (atEnd : Error) (text : List Char) :
    Except Error (Option (Bool × List Char) × List Char) :=
  match text with
  | [] => .ok (none, text)
  | c :: rest =>
    if c = 'e' ∨ c = 'E' then
      let (negative, rest) := match rest with
        | '+' :: rest => (false, rest)
        | '-' :: rest => (true, rest)
        | _ => (false, rest)
      match readDigits atEnd rest with
      | .error e => .error e
      | .ok (digits, rest) => .ok (some (negative, digits), rest)
    else .ok (none, text)

def read (atEnd : Error) (text : List Char) : Except Error (NumberText × List Char) := do
  let (negative, rest) := match text with
    | '-' :: rest => (true, rest)
    | _ => (false, text)
  let (whole, rest) ← readWhole atEnd rest
  let (fraction, rest) ← readFraction atEnd rest
  let (exponent, rest) ← readExponent atEnd rest
  return (⟨negative, whole, fraction, exponent⟩, rest)

/-- The significand after more digits, and how many digits found no place in it. -/
def takeDigits (significand : Nat) : List Char → Nat × Nat
  | [] => (significand, 0)
  | digit :: digits =>
    let next := significand * 10 + (digit.toNat - '0'.toNat)
    if next < unsignedLimit then takeDigits next digits else (significand, digits.length + 1)

/-- Divides by `10 ^ power`, by at most `10 ^ 308` at a time. -/
def divide (value : Binary64) (power : Nat) : Option Binary64 :=
  if power ≤ 308 then do value.div? (← Binary64.ofFraction? (Nat.pow 10 power) 1)
  else if value.significand = 0 then some value
  else do divide (← value.div? (← Binary64.ofFraction? (Nat.pow 10 308) 1)) (power - 308)
termination_by power

def multiply (value : Binary64) (power : Nat) : Option Binary64 :=
  if value.significand = 0 then some value
  else if power ≤ 308 then do value.mul? (← Binary64.ofFraction? (Nat.pow 10 power) 1)
  else none

/-- The value of a decimal without its sign, if it is not beyond the largest number. -/
def value? (number : NumberText) : Option Binary64 := do
  let (significand, dropped) := takeDigits 0 number.whole
  let fraction := number.fraction.getD []
  let (significand, lost) := takeDigits significand fraction
  let shift : Int := (dropped : Int) - (fraction.length - lost : Nat)
  let exponent : Int := match number.exponent with
    | none => shift
    | some (true, digits) => shift - Nat.ofDigitChars 10 digits 0
    | some (false, digits) => shift + Nat.ofDigitChars 10 digits 0
  let value ← Binary64.ofFraction? significand 1
  match exponent with
  | .ofNat power => multiply value power
  | .negSucc power => divide value (power + 1)

def isInteger (number : NumberText) : Bool :=
  number.fraction.isNone && number.exponent.isNone

def toNumber (number : NumberText) : Except Error Number :=
  let whole := Nat.ofDigitChars 10 number.whole 0
  if number.isInteger ∧ ¬number.negative ∧ whole < unsignedLimit then .ok (.integer whole)
  else if number.isInteger ∧ number.negative ∧ 0 < whole ∧ whole ≤ signedLimit then
    .ok (.integer (-whole))
  else
    match number.value? with
    | some value => .ok (.decimal number.negative value)
    | none => .error .numberOutOfRange

theorem length_of_readDigits {atEnd : Error} {text digits rest : List Char}
    (h : readDigits atEnd text = .ok (digits, rest)) : rest.length < text.length := by
  have whole := congrArg List.length
    (List.takeWhile_append_dropWhile (p := Char.isDigit) (l := text))
  rw [List.length_append] at whole
  unfold readDigits at h
  split at h
  · cases h
  · next nonempty =>
    simp only [Except.ok.injEq, Prod.mk.injEq] at h
    rw [List.isEmpty_iff, ← ne_eq, ← List.length_pos_iff] at nonempty
    rw [← h.2]
    omega

theorem length_of_readWhole {atEnd : Error} {text digits rest : List Char}
    (h : readWhole atEnd text = .ok (digits, rest)) : rest.length < text.length := by
  unfold readWhole at h
  split at h
  · cases h
  · cases h
  · next read =>
    cases h
    exact length_of_readDigits read

theorem length_of_readFraction {atEnd : Error} {text rest : List Char}
    {fraction : Option (List Char)} (h : readFraction atEnd text = .ok (fraction, rest)) :
    rest.length ≤ text.length := by
  unfold readFraction at h
  split at h
  · split at h
    · cases h
    · next read =>
      cases h
      have := length_of_readDigits read
      simp only [List.length_cons]
      omega
  · cases h
    exact Nat.le_refl _

theorem length_of_readExponent {atEnd : Error} {text rest : List Char}
    {exponent : Option (Bool × List Char)} (h : readExponent atEnd text = .ok (exponent, rest)) :
    rest.length ≤ text.length := by
  unfold readExponent at h
  split at h
  · cases h
    exact Nat.le_refl _
  · split at h
    · dsimp only at h
      split at h
      · cases h
      · next read =>
        cases h
        have := length_of_readDigits read
        split at this <;> simp only [List.length_cons] at this ⊢ <;> omega
    · cases h
      exact Nat.le_refl _

theorem length_of_read {atEnd : Error} {text rest : List Char} {number : NumberText}
    (h : read atEnd text = .ok (number, rest)) : rest.length < text.length := by
  have signed : (match text with
      | '-' :: rest => (true, rest)
      | _ => (false, text)).2.length ≤ text.length := by
    split <;> simp
  unfold read at h
  dsimp only at h
  cases whole : readWhole atEnd (match text with
      | '-' :: rest => (true, rest)
      | _ => (false, text)).2 with
  | error e => simp [whole, bind, Except.bind] at h
  | ok one =>
    cases fraction : readFraction atEnd one.2 with
    | error e => simp [whole, fraction, bind, Except.bind] at h
    | ok two =>
      cases exponent : readExponent atEnd two.2 with
      | error e => simp [whole, fraction, exponent, bind, Except.bind] at h
      | ok three =>
        simp only [whole, fraction, exponent, bind, Except.bind, pure, Except.pure,
          Except.ok.injEq, Prod.mk.injEq] at h
        have := length_of_readWhole whole
        have := length_of_readFraction fraction
        have := length_of_readExponent exponent
        rw [← h.2]
        omega

end NumberText

end Quarry.Json
