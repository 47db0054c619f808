import Quarry.Proofs.Numeral
import Quarry.Proofs.TextLiteral

/-! Strings as they are written in JSON. Every character is written as an escape or as itself, and
never as a control. Main statement: what is written of a text spells this text. -/

namespace Quarry.Json

variable {code : Nat} {c : Char}

theorem code_hexDigits (h : code < 0x20) : Code (hexDigits code) code := by
  have digits : ∀ code < 0x20, readCode (hexDigits code) = .ok (code, []) := by decide
  obtain ⟨letters, eq, isCode⟩ := code_of_readCode (digits code h)
  rwa [eq, List.append_nil]

/-- A character is escaped by a letter or by its code, or it is written as it is. -/
theorem escaped_cases (c : Char) :
    (∃ letter, escapedBy letter = some c ∧ 0x20 ≤ letter.toNat ∧ escaped c = ['\\', letter]) ∨
      (c.toNat < 0x20 ∧ escaped c = '\\' :: 'u' :: hexDigits c.toNat) ∨
      (c ≠ '"' ∧ c ≠ '\\' ∧ 0x20 ≤ c.toNat ∧ escaped c = [c]) := by
  unfold escaped
  split_ifs with quote backslash backspace feed newline carriage tab control
  · exact Or.inl ⟨'"', by rw [quote]; rfl, by decide, rfl⟩
  · exact Or.inl ⟨'\\', by rw [backslash]; rfl, by decide, rfl⟩
  · exact Or.inl ⟨'b', by rw [backspace]; rfl, by decide, rfl⟩
  · exact Or.inl ⟨'f', by rw [feed]; rfl, by decide, rfl⟩
  · exact Or.inl ⟨'n', by rw [newline]; rfl, by decide, rfl⟩
  · exact Or.inl ⟨'r', by rw [carriage]; rfl, by decide, rfl⟩
  · exact Or.inl ⟨'t', by rw [tab]; rfl, by decide, rfl⟩
  · exact Or.inr (Or.inl ⟨control, rfl⟩)
  · exact Or.inr (Or.inr ⟨quote, backslash, Nat.not_lt.1 control, rfl⟩)

/-- One character is spelled, in whichever way it is written. -/
theorem spelled_escaped (c : Char) : Spelled (escaped c) c := by
  rcases escaped_cases c with
    ⟨letter, stands, -, eq⟩ | ⟨control, eq⟩ | ⟨quote, backslash, visible, eq⟩
  · rw [eq]
    exact Spelled.letter stands
  · have low : isLowSurrogate c.toNat = false := by
      simp only [isLowSurrogate, Bool.and_eq_false_iff, decide_eq_false_iff_not]
      omega
    have high : isHighSurrogate c.toNat = false := by
      simp only [isHighSurrogate, Bool.and_eq_false_iff, decide_eq_false_iff_not]
      omega
    have code := Spelled.code (code_hexDigits control) low high
    rw [Char.ofNat_toNat] at code
    rwa [eq]
  · rw [eq]
    exact Spelled.plain quote backslash (Nat.not_lt.2 visible)

theorem spells_flatMap_escaped (text : List Char) : Spells (text.flatMap escaped) text := by
  induction text with
  | nil => exact Spells.nil
  | cons c text ih => exact Spells.cons (spelled_escaped c) ih

theorem visible_of_mem_hexDigits (h : c ∈ hexDigits code) : 0x20 ≤ c.toNat := by
  rcases List.mem_append.1 h with zeros | digits
  · rw [List.eq_of_mem_replicate zeros]
    decide
  · exact visible_of_mem_toDigits (by decide) (by decide) digits

theorem visible_of_mem_escaped {d : Char} (h : d ∈ escaped c) : 0x20 ≤ d.toNat := by
  rcases escaped_cases c with ⟨letter, -, visible, eq⟩ | ⟨control, eq⟩ | ⟨-, -, visible, eq⟩
  · rw [eq, List.mem_cons, List.mem_singleton] at h
    rcases h with rfl | rfl
    · decide
    · exact visible
  · rw [eq, List.mem_cons, List.mem_cons] at h
    rcases h with rfl | rfl | mem
    · decide
    · decide
    · exact visible_of_mem_hexDigits mem
  · rw [eq, List.mem_singleton] at h
    rwa [h]

theorem visible_of_mem_writeText {text : String} (h : c ∈ writeText text) : 0x20 ≤ c.toNat := by
  simp only [writeText, List.cons_append, List.mem_cons, List.mem_append, List.mem_flatMap,
    List.not_mem_nil, or_false] at h
  rcases h with rfl | ⟨_, _, mem⟩ | rfl
  · decide
  · exact visible_of_mem_escaped mem
  · decide

end Quarry.Json
