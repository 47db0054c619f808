/-!
Integer texts: an optional sign and at least one digit. A text stands for a number of 64 bits if its
value is in range, and the decimal text of a number of 64 bits stands for that number.
-/

namespace Quarry.Integer

def ofDigits? (digits : List Char) : Option Nat :=
  if digits.isEmpty || !digits.all Char.isDigit then none else some (Nat.ofDigitChars 10 digits 0)

def ofText? : List Char → Option Int
  | '+' :: digits => (ofDigits? digits).map Int.ofNat
  | '-' :: digits => (ofDigits? digits).map fun n => -Int.ofNat n
  | digits => (ofDigits? digits).map Int.ofNat

def toInt64? (n : Int) : Option Int64 :=
  if -9223372036854775808 ≤ n ∧ n ≤ 9223372036854775807 then some (Int64.ofInt n) else none

def ofText64? (text : List Char) : Option Int64 :=
  (ofText? text).bind toInt64?

def toText : Int → List Char
  | .ofNat n => Nat.toDigits 10 n
  | .negSucc n => '-' :: Nat.toDigits 10 (n + 1)

theorem ofDigits?_toDigits (n : Nat) : ofDigits? (Nat.toDigits 10 n) = some n := by
  have digits : (Nat.toDigits 10 n).all Char.isDigit = true :=
    List.all_eq_true.2 fun _ h => Nat.isDigit_of_mem_toDigits (by decide) (by decide) h
  have nonempty : (Nat.toDigits 10 n).isEmpty = false := by
    cases h : Nat.toDigits 10 n with
    | nil => exact absurd h Nat.toDigits_ne_nil
    | cons => rfl
  simp [ofDigits?, digits, nonempty, Nat.ofDigitChars_toDigits]

theorem toInt64?_toInt (n : Int64) : toInt64? n.toInt = some n := by
  have inRange : -9223372036854775808 ≤ n.toInt ∧ n.toInt ≤ 9223372036854775807 := by
    have low := Int64.le_toInt n
    have high := Int64.toInt_lt n
    omega
  simp only [toInt64?, if_pos inRange, Int64.ofInt_toInt]

end Quarry.Integer
