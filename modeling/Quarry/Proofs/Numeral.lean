import Quarry.Proofs.NumberLiteral

/-! Numbers as they are written in JSON. Main statement: what is written of an integer is an integer
literal with this value. -/

namespace Quarry.Json

theorem head?_toDigits {n : Nat} (h : 0 < n) : (Nat.toDigits 10 n).head? ≠ some '0' := by
  induction n using Nat.strongRecOn with
  | ind n ih =>
    by_cases small : n < 10
    · rw [Nat.toDigits_of_lt_base small]
      have digit : ∀ n < 10, 0 < n → [n.digitChar].head? ≠ some '0' := by decide
      exact digit n small h
    · have first := ih (n / 10) (by omega) (by omega)
      have filled : Nat.toDigits 10 (n / 10) ≠ [] := Nat.toDigits_ne_nil
      obtain ⟨c, more, eq⟩ := List.exists_cons_of_ne_nil filled
      rw [Nat.toDigits_of_base_le (by decide) (by omega), eq]
      rwa [eq] at first

/-- No number but zero starts with a zero. -/
theorem toDigits_ne_zero_cons (n : Nat) (c : Char) (digits : List Char) :
    Nat.toDigits 10 n ≠ '0' :: c :: digits := by
  rcases Nat.eq_zero_or_pos n with rfl | h
  · simp
  · intro eq
    apply head?_toDigits h
    rw [eq, List.head?_cons]

theorem whole_toDigits (n : Nat) : NumberText.Whole (Nat.toDigits 10 n) n :=
  ⟨Integer.ofDigits?_eq_some_iff.1 (Integer.ofDigits?_toDigits n), toDigits_ne_zero_cons n⟩

theorem integerLiteral_toText (n : Int) : IntegerLiteral (Integer.toText n) n := by
  cases n with
  | ofNat n => exact IntegerLiteral.positive (whole_toDigits n)
  | negSucc n => exact IntegerLiteral.negative (whole_toDigits (n + 1)) (Nat.succ_ne_zero n)

/-- The digits of a number are no controls, whether decimal or hexadecimal. -/
theorem visible_of_mem_toDigits {base n : Nat} {c : Char} (more : 1 < base) (le : base ≤ 16)
    (h : c ∈ Nat.toDigits base n) : 0x20 ≤ c.toNat := by
  have digit : ∀ n < 16, 0x20 ≤ n.digitChar.toNat := by decide
  induction n using Nat.strongRecOn with
  | ind n ih =>
    rw [Nat.toDigits_eq_if more] at h
    split at h
    · rw [List.mem_singleton] at h
      rw [h]
      exact digit n (by omega)
    · have small : n % base < base := Nat.mod_lt n (by omega)
      rw [List.mem_append, List.mem_singleton] at h
      rcases h with front | rfl
      · exact ih (n / base) (Nat.div_lt_self (by omega) more) front
      · exact digit (n % base) (by omega)

theorem visible_of_mem_toText {n : Int} {c : Char} (h : c ∈ Integer.toText n) : 0x20 ≤ c.toNat := by
  cases n with
  | ofNat n => exact visible_of_mem_toDigits (by decide) (by decide) h
  | negSucc n =>
    rcases List.mem_cons.1 h with rfl | mem
    · decide
    · exact visible_of_mem_toDigits (by decide) (by decide) mem

end Quarry.Json
