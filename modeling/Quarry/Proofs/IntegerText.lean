import Mathlib.Data.List.Induction
import Quarry.Number.Integer
import Quarry.Text.Blank

/-! Which number a text stands for. Main statement: a text is read as a number of 64 bits exactly if
it is made of decimal digits with that value, behind one sign at most; what is written of a number
is such a text. -/

namespace Quarry.Integer

variable {text digits : List Char} {n : Nat}

/-- Decimal digits and their value: a digit further to the left counts ten times as much. -/
inductive Digits : List Char → Nat → Prop
  | one {digit : Nat} (small : digit < 10) : Digits [digit.digitChar] digit
  | snoc {digits : List Char} {n digit : Nat} (front : Digits digits n) (small : digit < 10) :
    Digits (digits ++ [digit.digitChar]) (10 * n + digit)

/-- Texts that stand for a number: digits, alone or behind one sign. -/
inductive Denotes : List Char → Int → Prop
  | plain {digits : List Char} {n : Nat} (h : Digits digits n) : Denotes digits n
  | plus {digits : List Char} {n : Nat} (h : Digits digits n) : Denotes ('+' :: digits) n
  | minus {digits : List Char} {n : Nat} (h : Digits digits n) : Denotes ('-' :: digits) (-n)

/-! Digits. -/

theorem exists_digitChar_of_isDigit {c : Char} (h : c.isDigit = true) :
    ∃ digit < 10, c = digit.digitChar := by
  have bounds : 48 ≤ c.toNat ∧ c.toNat ≤ 57 := by
    simpa [Char.isDigit, UInt32.le_iff_toNat_le] using h
  refine ⟨c.toNat - 48, by omega, ?_⟩
  apply Char.toNat_inj.1
  rw [Nat.toNat_digitChar_of_lt_ten (by omega)]
  omega

theorem ofDigitChars_snoc {digit : Nat} (small : digit < 10) (digits : List Char) :
    Nat.ofDigitChars 10 (digits ++ [digit.digitChar]) 0 =
      10 * Nat.ofDigitChars 10 digits 0 + digit := by
  have shifted : digit.digitChar.toNat - '0'.toNat = digit := by
    rw [Nat.toNat_digitChar_of_lt_ten small]
    exact Nat.add_sub_cancel_left 48 digit
  rw [Nat.ofDigitChars_append, Nat.ofDigitChars_cons, Nat.ofDigitChars_nil, shifted]

theorem Digits.isDigit (h : Digits digits n) : ∀ c ∈ digits, c.isDigit = true := by
  induction h with
  | one small => simpa [Nat.isDigit_digitChar] using small
  | snoc front small ih =>
    intro c mem
    rcases List.mem_append.1 mem with mem | mem
    · exact ih c mem
    · rw [List.mem_singleton.1 mem, Nat.isDigit_digitChar]
      exact decide_eq_true small

theorem Digits.ne_nil (h : Digits digits n) : digits ≠ [] := by
  cases h <;> simp

theorem Digits.value (h : Digits digits n) : Nat.ofDigitChars 10 digits 0 = n := by
  induction h with
  | one small => simpa using ofDigitChars_snoc small []
  | snoc front small ih => rw [ofDigitChars_snoc small, ih]

theorem digits_of_isDigit (filled : digits ≠ []) (all : ∀ c ∈ digits, c.isDigit = true) :
    Digits digits (Nat.ofDigitChars 10 digits 0) := by
  induction digits using List.reverseRecOn with
  | nil => exact absurd rfl filled
  | append_singleton digits c ih =>
    obtain ⟨digit, small, rfl⟩ := exists_digitChar_of_isDigit (all c (by simp))
    rw [ofDigitChars_snoc small]
    cases digits with
    | nil => simpa using Digits.one small
    | cons first digits =>
      exact .snoc (ih (List.cons_ne_nil _ _) fun c mem => all c (List.mem_append_left _ mem)) small

theorem ofDigits?_eq_some_iff : ofDigits? digits = some n ↔ Digits digits n := by
  refine ⟨?_, ?_⟩
  · intro read
    rw [ofDigits?] at read
    split at read
    · cases read
    · next h =>
      rw [Bool.or_eq_true, not_or, List.isEmpty_iff, Bool.not_eq_true', Bool.not_eq_false,
        List.all_eq_true] at h
      cases read
      exact digits_of_isDigit h.1 h.2
  · intro h
    have plain : ¬ (digits.isEmpty || !digits.all Char.isDigit) = true := by
      simpa [h.ne_nil] using h.isDigit
    rw [ofDigits?, if_neg plain, h.value]

/-! Signs. -/

theorem not_digits_cons {c : Char} (h : c.isDigit = false) : ¬ Digits (c :: digits) n := by
  intro whole
  rw [whole.isDigit c List.mem_cons_self] at h
  cases h

theorem ofText?_eq_some_iff {n : Int} : ofText? text = some n ↔ Denotes text n := by
  unfold ofText?
  split
  · next digits =>
    rw [Option.map_eq_some_iff]
    refine ⟨?_, ?_⟩
    · rintro ⟨value, read, rfl⟩
      exact .plus (ofDigits?_eq_some_iff.1 read)
    · intro h
      cases h with
      | plain h => exact absurd h (not_digits_cons rfl)
      | plus h => exact ⟨_, ofDigits?_eq_some_iff.2 h, rfl⟩
  · next digits =>
    rw [Option.map_eq_some_iff]
    refine ⟨?_, ?_⟩
    · rintro ⟨value, read, rfl⟩
      exact .minus (ofDigits?_eq_some_iff.1 read)
    · intro h
      cases h with
      | plain h => exact absurd h (not_digits_cons rfl)
      | minus h => exact ⟨_, ofDigits?_eq_some_iff.2 h, rfl⟩
  · next plus minus =>
    rw [Option.map_eq_some_iff]
    refine ⟨?_, ?_⟩
    · rintro ⟨value, read, rfl⟩
      exact .plain (ofDigits?_eq_some_iff.1 read)
    · intro h
      cases h with
      | plain h => exact ⟨_, ofDigits?_eq_some_iff.2 h, rfl⟩
      | plus h => exact absurd rfl (plus _)
      | minus h => exact absurd rfl (minus _)

/-! Numbers of 64 bits. -/

theorem toInt64?_eq_some_iff {n : Int} {value : Int64} :
    toInt64? n = some value ↔ n = value.toInt := by
  refine ⟨?_, fun h => h ▸ toInt64?_toInt value⟩
  intro read
  rw [toInt64?] at read
  split at read
  · next h =>
    obtain rfl := Option.some.inj read
    rw [Int64.toInt_ofInt_of_le h.1 (by omega)]
  · cases read

theorem ofText64?_eq_some_iff {value : Int64} :
    ofText64? text = some value ↔ Denotes text value.toInt := by
  rw [ofText64?, Option.bind_eq_some_iff]
  simp only [toInt64?_eq_some_iff, ofText?_eq_some_iff, exists_eq_right]

theorem isSome_ofText64?_iff : (ofText64? text).isSome ↔
    ∃ n, Denotes text n ∧ -9223372036854775808 ≤ n ∧ n ≤ 9223372036854775807 := by
  rw [Option.isSome_iff_exists]
  simp only [ofText64?_eq_some_iff]
  refine ⟨?_, ?_⟩
  · rintro ⟨value, h⟩
    have low := Int64.le_toInt value
    have high := Int64.toInt_lt value
    exact ⟨value.toInt, h, by omega, by omega⟩
  · rintro ⟨n, h, low, high⟩
    refine ⟨Int64.ofInt n, ?_⟩
    rwa [Int64.toInt_ofInt_of_le low (by omega)]

/-! What is written of a number. -/

theorem denotes_toText (n : Int) : Denotes (toText n) n := by
  cases n with
  | ofNat n => exact .plain (ofDigits?_eq_some_iff.1 (ofDigits?_toDigits n))
  | negSucc n => exact .minus (ofDigits?_eq_some_iff.1 (ofDigits?_toDigits (n + 1)))

theorem not_blank_of_isDigit {c : Char} (h : c.isDigit = true) : Text.isBlank c = false := by
  obtain ⟨digit, small, rfl⟩ := exists_digitChar_of_isDigit h
  have all : ∀ digit < 10, Text.isBlank digit.digitChar = false := by decide
  exact all digit small

theorem trim_toText (n : Int) : Text.trim (toText n) = toText n := by
  apply Text.trim_of_no_blank
  have written : ∀ n c, c ∈ Nat.toDigits 10 n → Text.isBlank c = false := fun n c mem =>
    not_blank_of_isDigit (Nat.isDigit_of_mem_toDigits (by decide) (by decide) mem)
  cases n with
  | ofNat n => exact written n
  | negSucc n => exact List.forall_mem_cons.2 ⟨rfl, written (n + 1)⟩

end Quarry.Integer
