import Mathlib.Tactic.Common
import Quarry.Proofs.IntegerText
import Quarry.Proofs.JsonSteps
import Quarry.Proofs.Members

/-! The numbers of JSON: a sign, digits, a fraction and an exponent, of which only the digits are always
there. Main statement: a number is read up to the end of its text, and as one of 64 bits if it has
neither fraction nor exponent, is no negative zero and is in range. -/

namespace Quarry.Json

open Integer (Digits)

variable {digits rest letters : List Char} {n : Nat} {c : Char}

namespace NumberText

variable {atEnd : Error} {number : NumberText} {fraction : Option (List Char)}
  {exponent : Option (Bool × List Char)}

/-! What may follow the parts of a number. -/

/-- A text that cannot go on with a number. -/
def Ended (rest : List Char) : Prop :=
  ∀ c ∈ rest.head?, c.isDigit = false ∧ c ≠ '.' ∧ c ≠ 'e' ∧ c ≠ 'E'

instance : Decidable (Ended rest) :=
  inferInstanceAs (Decidable (∀ c ∈ rest.head?, c.isDigit = false ∧ c ≠ '.' ∧ c ≠ 'e' ∧ c ≠ 'E'))

/-- A text that cannot go on with digits and a fraction. -/
def NoFraction (rest : List Char) : Prop :=
  ∀ c ∈ rest.head?, c.isDigit = false ∧ c ≠ '.'

/-- A text that cannot go on with digits. -/
def NoDigit (rest : List Char) : Prop :=
  ∀ c ∈ rest.head?, c.isDigit = false

theorem NoDigit.takeWhile (h : NoDigit rest) : rest.takeWhile Char.isDigit = [] := by
  cases rest with
  | nil => rfl
  | cons c rest => rw [List.takeWhile_cons_of_neg (by simp [h c (by simp)])]

theorem NoDigit.dropWhile (h : NoDigit rest) : rest.dropWhile Char.isDigit = rest := by
  cases rest with
  | nil => rfl
  | cons c rest => rw [List.dropWhile_cons_of_neg (by simp [h c (by simp)])]

theorem isDigit_ne_zero_or (mark : c = 'e' ∨ c = 'E') : c.isDigit = false ∧ c ≠ '.' := by
  rcases mark with rfl | rfl <;> decide

/-! The parts of a number. -/

/-- The digits in front of a fraction, with their value. A zero stands alone there. -/
structure Whole (digits : List Char) (n : Nat) : Prop where
  decimal : Digits digits n
  alone : ∀ c more, digits ≠ '0' :: c :: more

inductive FractionLiteral : Option (List Char) → List Char → Prop where
  | none : FractionLiteral none []
  | some {digits : List Char} {n : Nat} (h : Digits digits n) :
      FractionLiteral (some digits) ('.' :: digits)

inductive ExponentLiteral : Option (Bool × List Char) → List Char → Prop where
  | none : ExponentLiteral none []
  | unsigned {mark : Char} {digits : List Char} {n : Nat} (mark' : mark = 'e' ∨ mark = 'E')
      (h : Digits digits n) : ExponentLiteral (some (false, digits)) (mark :: digits)
  | plus {mark : Char} {digits : List Char} {n : Nat} (mark' : mark = 'e' ∨ mark = 'E')
      (h : Digits digits n) : ExponentLiteral (some (false, digits)) (mark :: '+' :: digits)
  | minus {mark : Char} {digits : List Char} {n : Nat} (mark' : mark = 'e' ∨ mark = 'E')
      (h : Digits digits n) : ExponentLiteral (some (true, digits)) (mark :: '-' :: digits)

def signLetters (negative : Bool) : List Char :=
  if negative then ['-'] else []

end NumberText

open NumberText

/-- A number in JSON: its parts, and the letters that they are read from. -/
inductive NumberLiteral : NumberText → List Char → Prop where
  | parts {negative : Bool} {whole fractionLetters exponentLetters : List Char}
      {fraction : Option (List Char)} {exponent : Option (Bool × List Char)} {n : Nat}
      (whole' : Whole whole n) (fraction' : FractionLiteral fraction fractionLetters)
      (exponent' : ExponentLiteral exponent exponentLetters) :
      NumberLiteral ⟨negative, whole, fraction, exponent⟩
        (signLetters negative ++ (whole ++ (fractionLetters ++ exponentLetters)))

/-- The numbers without fraction and exponent, apart from the negative zero. -/
inductive IntegerLiteral : List Char → Int → Prop where
  | positive {digits : List Char} {n : Nat} (whole : Whole digits n) : IntegerLiteral digits n
  | negative {digits : List Char} {n : Nat} (whole : Whole digits n) (nonzero : n ≠ 0) :
      IntegerLiteral ('-' :: digits) (-n)

namespace NumberText

variable {atEnd : Error} {number : NumberText} {fraction : Option (List Char)}
  {exponent : Option (Bool × List Char)}

/-! Reading them. -/

theorem readDigits_append (h : Digits digits n) (stop : NoDigit rest) :
    readDigits atEnd (digits ++ rest) = .ok (digits, rest) := by
  have filled : ¬ digits.isEmpty := by simpa using h.ne_nil
  rw [readDigits, List.takeWhile_append_of_pos h.isDigit, List.dropWhile_append_of_pos h.isDigit,
    stop.takeWhile, stop.dropWhile, List.append_nil, if_neg filled]

theorem exists_eq_cons_of_digits (h : Digits digits n) :
    ∃ c more, digits = c :: more ∧ c.isDigit = true := by
  obtain ⟨c, more, rfl⟩ := List.exists_cons_of_ne_nil h.ne_nil
  exact ⟨c, more, rfl, h.isDigit c List.mem_cons_self⟩

theorem ne_of_isDigit {d : Char} (h : c.isDigit = true) (other : d.isDigit = false) : c ≠ d := by
  rintro rfl
  rw [h] at other
  cases other

theorem Whole.readWhole (h : Whole digits n) (stop : NoDigit rest) :
    readWhole atEnd (digits ++ rest) = .ok (digits, rest) := by
  rw [NumberText.readWhole, readDigits_append h.decimal stop]
  split
  · next eq => cases eq
  · next eq => exact absurd (Prod.mk.inj (Except.ok.inj eq)).1 (h.alone _ _)
  · next eq => rw [eq]

theorem readFraction_of_noFraction (h : NoFraction rest) :
    readFraction atEnd rest = .ok (none, rest) := by
  unfold readFraction
  split
  · exact absurd rfl (h '.' rfl).2
  · rfl

theorem FractionLiteral.readFraction (h : FractionLiteral fraction letters) (stop : NoFraction rest) :
    readFraction atEnd (letters ++ rest) = .ok (fraction, rest) := by
  cases h with
  | none => exact readFraction_of_noFraction stop
  | some h =>
    have noDigit : NoDigit rest := fun c mem => (stop c mem).1
    rw [List.cons_append, NumberText.readFraction, readDigits_append h noDigit]

theorem FractionLiteral.noDigit (h : FractionLiteral fraction letters) (stop : NoFraction rest) :
    NoDigit (letters ++ rest) := by
  cases h with
  | none => exact fun c mem => (stop c mem).1
  | some h =>
    intro c mem
    cases mem
    rfl

theorem readExponent_of_ended (ended : Ended rest) :
    readExponent atEnd rest = .ok (none, rest) := by
  cases rest with
  | nil => rfl
  | cons c rest =>
    obtain ⟨-, -, lower, upper⟩ := ended c (by simp)
    exact readExponent_of_not_mark (by simp [lower, upper]) rest

theorem ExponentLiteral.readExponent (h : ExponentLiteral exponent letters) (ended : Ended rest) :
    readExponent atEnd (letters ++ rest) = .ok (exponent, rest) := by
  have noDigit : NoDigit rest := fun c mem => (ended c mem).1
  cases h with
  | none => exact readExponent_of_ended ended
  | @unsigned mark digits n mark' h =>
    obtain ⟨c, more, eq, digit⟩ := exists_eq_cons_of_digits h
    have unsigned : exponentSign (digits ++ rest) = (false, digits ++ rest) := by
      rw [eq]
      exact exponentSign_of_ne (ne_of_isDigit digit rfl) (ne_of_isDigit digit rfl)
    rw [List.cons_append, readExponent_of_mark mark', unsigned, readDigits_append h noDigit]
    rfl
  | plus mark' h =>
    rw [List.cons_append, readExponent_of_mark mark', List.cons_append, exponentSign,
      readDigits_append h noDigit]
    rfl
  | minus mark' h =>
    rw [List.cons_append, readExponent_of_mark mark', List.cons_append, exponentSign,
      readDigits_append h noDigit]
    rfl

theorem ExponentLiteral.noFraction (h : ExponentLiteral exponent letters) (ended : Ended rest) :
    NoFraction (letters ++ rest) := by
  cases h with
  | none => exact fun c mem => ⟨(ended c mem).1, (ended c mem).2.1⟩
  | unsigned mark' h | plus mark' h | minus mark' h =>
    intro c mem
    cases mem
    exact isDigit_ne_zero_or mark'

theorem sign_signLetters {text : List Char} (negative : Bool) (h : c.isDigit = true) :
    sign (signLetters negative ++ c :: text) = (negative, c :: text) := by
  cases negative with
  | false => exact sign_of_ne (ne_of_isDigit h rfl)
  | true => rfl

end NumberText

theorem NumberLiteral.read {number : NumberText} (h : NumberLiteral number letters)
    (ended : Ended rest) (atEnd : Error) :
    NumberText.read atEnd (letters ++ rest) = .ok (number, rest) := by
  obtain ⟨whole, fraction, exponent⟩ := h
  obtain ⟨c, more, rfl, digit⟩ := exists_eq_cons_of_digits whole.decimal
  have noFraction := exponent.noFraction ended
  rw [NumberText.read_eq, List.append_assoc, List.append_assoc, List.append_assoc, List.cons_append,
    sign_signLetters _ digit, ← List.cons_append]
  simp only [whole.readWhole (fraction.noDigit noFraction), fraction.readFraction noFraction,
    exponent.readExponent ended, ok_bind]
  rfl

theorem NumberLiteral.exists_eq_cons {number : NumberText} (h : NumberLiteral number letters) :
    ∃ c more, letters = c :: more ∧ (c = '-' ∨ c.isDigit = true) := by
  cases h with
  | @parts negative _ _ _ _ _ _ whole =>
    obtain ⟨c, more, rfl, digit⟩ := exists_eq_cons_of_digits whole.decimal
    cases negative with
    | false => exact ⟨c, _, rfl, Or.inr digit⟩
    | true => exact ⟨'-', _, rfl, Or.inl rfl⟩

theorem IntegerLiteral.exists_eq_cons {n : Int} (h : IntegerLiteral letters n) :
    ∃ c more, letters = c :: more ∧ (c = '-' ∨ c.isDigit = true) := by
  cases h with
  | positive whole =>
    obtain ⟨c, more, eq, digit⟩ := exists_eq_cons_of_digits whole.decimal
    exact ⟨c, more, eq, Or.inr digit⟩
  | negative whole nonzero => exact ⟨'-', _, rfl, Or.inl rfl⟩

/-! Numbers of 64 bits. -/

theorem IntegerLiteral.toNumber {value : Int} (h : IntegerLiteral letters value)
    (low : -(signedLimit : Int) ≤ value) (high : value < signedLimit) :
    ∃ number, NumberLiteral number letters ∧ number.toNumber = .ok (.integer value) := by
  have limits : signedLimit < unsignedLimit := by decide
  have parts : ∀ {negative : Bool} {digits : List Char} {n : Nat}, Whole digits n →
      NumberLiteral ⟨negative, digits, none, none⟩ (signLetters negative ++ digits) := by
    intro negative digits n whole
    have parts : NumberLiteral ⟨negative, digits, none, none⟩
        (signLetters negative ++ (digits ++ ([] ++ []))) :=
      NumberLiteral.parts whole FractionLiteral.none ExponentLiteral.none
    rwa [List.append_nil, List.append_nil] at parts
  cases h with
  | positive whole =>
    refine ⟨⟨false, letters, none, none⟩, parts whole, ?_⟩
    simp only [NumberText.toNumber, isInteger, whole.decimal.value]
    rw [if_pos ⟨rfl, by simp, by omega⟩]
  | @negative digits n whole nonzero =>
    refine ⟨⟨true, digits, none, none⟩, parts whole, ?_⟩
    simp only [NumberText.toNumber, isInteger, whole.decimal.value]
    rw [if_neg (by simp), if_pos ⟨rfl, trivial, by omega, by omega⟩]

theorem NumberLiteral.of_isInteger {number : NumberText} (h : NumberLiteral number letters)
    (integer : number.isInteger = true) : letters = signLetters number.negative ++ number.whole ∧
      Whole number.whole (Nat.ofDigitChars 10 number.whole 0) := by
  obtain ⟨whole, fraction, exponent⟩ := h
  simp only [isInteger, Bool.and_eq_true, Option.isNone_iff_eq_none] at integer
  obtain ⟨rfl, rfl⟩ := integer
  cases fraction
  cases exponent
  refine ⟨by rw [List.append_nil, List.append_nil], ?_⟩
  rwa [whole.decimal.value]

theorem NumberLiteral.integerLiteral {number : NumberText} {found : Number} {value : Int64}
    (h : NumberLiteral number letters) (read : number.toNumber = .ok found)
    (fits : found.toInt64 = .ok value) : IntegerLiteral letters value.toInt := by
  have limit : signedLimit = 2 ^ 63 := rfl
  unfold NumberText.toNumber at read
  dsimp only at read
  split_ifs at read with positive negative
  · obtain ⟨integer, sign, -⟩ := positive
    obtain ⟨rfl, whole⟩ := h.of_isInteger integer
    cases read
    rw [Number.toInt64] at fits
    split at fits
    · next small =>
      cases fits
      rw [Int64.toInt_ofInt_of_le (by omega) (by omega), Bool.eq_false_iff.2 sign]
      exact IntegerLiteral.positive whole
    · cases fits
  · obtain ⟨integer, sign, nonzero, le⟩ := negative
    obtain ⟨rfl, whole⟩ := h.of_isInteger integer
    cases read
    rw [Number.toInt64] at fits
    split at fits
    · next small =>
      cases fits
      rw [Int64.toInt_ofInt_of_le (by omega) (by omega), sign]
      exact IntegerLiteral.negative whole (by omega)
    · cases fits
  · split at read
    · cases read
      cases fits
    · cases read

/-- A number starts with no other character than a sign or a digit. -/
theorem ne_of_starts {d : Char} (starts : c = '-' ∨ c.isDigit = true) (sign : '-' ≠ d)
    (digit : d.isDigit = false) : c ≠ d := by
  rcases starts with rfl | isDigit
  · exact sign
  · exact ne_of_isDigit isDigit digit

theorem isSpace_of_starts (starts : c = '-' ∨ c.isDigit = true) : isSpace c = false := by
  have other : ∀ d ∈ [' ', '\t', '\n', '\r'], '-' ≠ d ∧ d.isDigit = false := by simp
  have differs : ∀ d ∈ [' ', '\t', '\n', '\r'], c ≠ d :=
    fun d mem => ne_of_starts starts (other d mem).1 (other d mem).2
  simpa [isSpace, and_assoc] using differs

theorem ended_of_isSpace (h : isSpace c = true) (rest : List Char) :
    Ended (c :: rest) := by
  simp only [isSpace, Bool.or_eq_true, decide_eq_true_eq, or_assoc] at h
  rcases h with rfl | rfl | rfl | rfl <;> (intro d mem; cases mem; decide)

theorem ended_spaces {space : List Char} (spaces : Spaces space) (ended : Ended rest) :
    Ended (space ++ rest) := by
  cases space with
  | nil => exact ended
  | cons c space => exact ended_of_isSpace (spaces c List.mem_cons_self) _

theorem readInteger_of_literal {number : NumberText} (h : NumberLiteral number letters)
    (ended : Ended rest) : Reader.integer.run (letters ++ rest) = (do
      let found ← number.toNumber
      let value ← found.toInt64
      return (value, rest)) := by
  obtain ⟨c, more, rfl, starts⟩ := h.exists_eq_cons
  have start : skipSpace (c :: more ++ rest) = c :: (more ++ rest) :=
    skipSpace_cons (isSpace_of_starts starts) _
  have read : NumberText.read .endInValue (c :: (more ++ rest)) = .ok (number, rest) :=
    h.read ended .endInValue
  simp only [Reader.integer, Reader.readIntegerValue, start, if_pos starts, readNumber, read]
  cases number.toNumber with
  | error e => rfl
  | ok found =>
    rw [ok_bind]
    cases fits : found.toInt64 <;> simp only [fits] <;> rfl

/-- The number at the front of a text is read if it is an integer in range. -/
theorem readInteger_eq_ok_iff {number : NumberText} {value : Int64} {after : List Char}
    (h : NumberLiteral number letters) (ended : Ended rest) :
    Reader.integer.run (letters ++ rest) = .ok (value, after) ↔
      IntegerLiteral letters value.toInt ∧ after = rest := by
  constructor
  · intro run
    rw [readInteger_of_literal h ended] at run
    simp only [bind_eq_ok_iff, pure_eq_ok_iff, Prod.mk.injEq] at run
    obtain ⟨found, read, value, fits, rfl, rfl⟩ := run
    exact ⟨h.integerLiteral read fits, rfl⟩
  · rintro ⟨literal, rfl⟩
    have high : value.toInt < signedLimit := Int64.toInt_lt value
    obtain ⟨number, h', read⟩ := literal.toNumber (Int64.le_toInt value) high
    rw [readInteger_of_literal h' ended, read]
    simp only [ok_bind, Number.toInt64, if_pos high, Int64.ofInt_toInt]
    rfl

end Quarry.Json
