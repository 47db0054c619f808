import Mathlib.Tactic.Common
import Quarry.Json.Text

/-! What stands between the quotes of a JSON string. Every character of a text is spelled as itself, by a
letter behind a backslash, or by the code of one or two surrogates. Main statement: what is read is what is
spelled, and a string that is only passed over may have surrogates without a partner. -/

namespace Quarry.Json

variable {text rest seen digits letters chars piece : List Char} {c : Char} {code : Nat}
  {value : String}

/-- Four hexadecimal digits. -/
inductive Code : List Char → Nat → Prop where
  | digits {a b c d : Char} {i j k l : Nat} (first : hexValue? a = some i)
      (second : hexValue? b = some j) (third : hexValue? c = some k) (fourth : hexValue? d = some l) :
      Code [a, b, c, d] (((i * 16 + j) * 16 + k) * 16 + l)

/-- The ways to write one character. -/
inductive Spelled : List Char → Char → Prop where
  | plain {c : Char} (quote : c ≠ '"') (backslash : c ≠ '\\') (visible : ¬ c.toNat < 0x20) :
      Spelled [c] c
  | letter {letter c : Char} (stands : escapedBy letter = some c) : Spelled ['\\', letter] c
  | code {digits : List Char} {code : Nat} (hex : Code digits code)
      (low : isLowSurrogate code = false) (high : isHighSurrogate code = false) :
      Spelled ('\\' :: 'u' :: digits) (Char.ofNat code)
  | pair {first second : List Char} {high low : Nat} (hex : Code first high)
      (hex' : Code second low) (isHigh : isHighSurrogate high = true)
      (isLow : isLowSurrogate low = true) :
      Spelled ('\\' :: 'u' :: first ++ '\\' :: 'u' :: second) (ofSurrogates high low)

/-- The letters of a string, and the text that they spell. -/
inductive Spells : List Char → List Char → Prop where
  | nil : Spells [] []
  | cons {piece letters chars : List Char} {c : Char} (first : Spelled piece c)
      (more : Spells letters chars) : Spells (piece ++ letters) (c :: chars)

/-- The letters of a string, whether they spell a text or not. -/
inductive TextLiteral : List Char → Prop where
  | nil : TextLiteral []
  | plain {c : Char} {letters : List Char} (quote : c ≠ '"') (backslash : c ≠ '\\')
      (visible : ¬ c.toNat < 0x20) (more : TextLiteral letters) : TextLiteral (c :: letters)
  | letter {letter : Char} {letters : List Char} (known : (escapedBy letter).isSome = true)
      (more : TextLiteral letters) : TextLiteral ('\\' :: letter :: letters)
  | code {digits letters : List Char} {code : Nat} (hex : Code digits code)
      (more : TextLiteral letters) : TextLiteral ('\\' :: 'u' :: digits ++ letters)

/-! One step of reading. -/

theorem readEscape_letter {letter : Char} (h : escapedBy letter = some c) (rest : List Char) :
    readEscape (letter :: rest) = .ok (c, rest) := by
  have differs : letter ≠ 'u' := by
    rintro rfl
    cases h
  simp [readEscape, differs, h]

theorem readText_quote (seen rest : List Char) :
    readText seen ('"' :: rest) = .ok (String.ofList seen.reverse, rest) := by
  rw [readText]

theorem readText_escape (h : readEscape text = .ok (c, rest)) (seen : List Char) :
    readText seen ('\\' :: text) = readText (c :: seen) rest := by
  rw [readText]
  split <;> simp_all

theorem readText_plain (quote : c ≠ '"') (backslash : c ≠ '\\') (visible : ¬ c.toNat < 0x20)
    (seen rest : List Char) : readText seen (c :: rest) = readText (c :: seen) rest := by
  rw [readText]
  · exact if_neg visible
  · exact quote
  · exact backslash

/-! What is read is spelled. -/

theorem Code.readCode (h : Code digits code) (rest : List Char) :
    readCode (digits ++ rest) = .ok (code, rest) := by
  obtain ⟨first, second, third, fourth⟩ := h
  simp only [List.cons_append, List.nil_append, Json.readCode, first, second, third, fourth]

theorem code_of_readCode (h : readCode text = .ok (code, rest)) :
    ∃ digits, text = digits ++ rest ∧ Code digits code := by
  unfold readCode at h
  split at h
  · split at h
    · next first second third fourth =>
      cases h
      exact ⟨_, rfl, Code.digits first second third fourth⟩
    · cases h
  · cases h

theorem code_of_readLowSurrogate {high : Nat} (h : readLowSurrogate high text = .ok (c, rest)) :
    ∃ digits low, text = '\\' :: 'u' :: digits ++ rest ∧ Code digits low ∧
      isLowSurrogate low = true ∧ c = ofSurrogates high low := by
  unfold readLowSurrogate at h
  split at h
  · cases h
  · cases h
  · split at h
    · cases h
    · next low after read =>
      obtain ⟨digits, rfl, isCode⟩ := code_of_readCode read
      split at h
      · next isLow =>
        simp only [Except.ok.injEq, Prod.mk.injEq] at h
        obtain ⟨rfl, rfl⟩ := h
        exact ⟨digits, low, rfl, isCode, isLow, rfl⟩
      · cases h
  · cases h

theorem spelled_of_readEscape (h : readEscape text = .ok (c, rest)) :
    ∃ piece, '\\' :: text = piece ++ rest ∧ Spelled piece c := by
  unfold readEscape at h
  split at h
  · cases h
  · split at h
    · next unicode =>
      subst unicode
      split at h
      · cases h
      · next code after read =>
        obtain ⟨digits, rfl, isCode⟩ := code_of_readCode read
        split at h
        · cases h
        · next notLow =>
          split at h
          · next isHigh =>
            obtain ⟨digits', low, rfl, isCode', isLow, eq⟩ := code_of_readLowSurrogate h
            rw [eq]
            exact ⟨_, by simp, Spelled.pair isCode isCode' isHigh isLow⟩
          · next notHigh =>
            cases h
            exact ⟨_, rfl, Spelled.code isCode (Bool.eq_false_iff.2 notLow)
              (Bool.eq_false_iff.2 notHigh)⟩
    · split at h
      · next stands =>
        cases h
        exact ⟨_, rfl, Spelled.letter stands⟩
      · cases h

theorem spells_of_readText (h : readText seen text = .ok (value, rest)) :
    ∃ letters chars, text = letters ++ '"' :: rest ∧ Spells letters chars ∧
      value = String.ofList (seen.reverse ++ chars) := by
  fun_induction readText seen text with
  | case1 => cases h
  | case2 seen after =>
    cases h
    exact ⟨[], [], rfl, Spells.nil, by rw [List.append_nil]⟩
  | case3 => cases h
  | case4 seen after c behind read ih =>
    obtain ⟨piece, eq, spelled⟩ := spelled_of_readEscape read
    obtain ⟨letters, chars, rfl, spells, rfl⟩ := ih h
    exact ⟨piece ++ letters, c :: chars, by rw [eq, List.append_assoc], Spells.cons spelled spells,
      by simp⟩
  | case5 => cases h
  | case6 seen c after quote backslash visible ih =>
    obtain ⟨letters, chars, rfl, spells, rfl⟩ := ih h
    exact ⟨c :: letters, c :: chars, rfl, Spells.cons (Spelled.plain quote backslash visible) spells,
      by simp⟩

/-! What is spelled is read. -/

theorem Spelled.readText (h : Spelled piece c) (seen rest : List Char) :
    readText seen (piece ++ rest) = readText (c :: seen) rest := by
  cases h with
  | plain quote backslash visible => exact readText_plain quote backslash visible seen rest
  | letter stands => exact readText_escape (readEscape_letter stands rest) seen
  | @code digits code isCode low high =>
    have read : readEscape ('u' :: (digits ++ rest)) = .ok (Char.ofNat code, rest) := by
      simp [readEscape, isCode.readCode, low, high]
    exact readText_escape read seen
  | @pair first second high low isCode isCode' isHigh isLow =>
    have notLow : isLowSurrogate high = false := by
      simp only [isHighSurrogate, Bool.and_eq_true, decide_eq_true_eq] at isHigh
      simp only [isLowSurrogate, Bool.and_eq_false_iff, decide_eq_false_iff_not]
      omega
    have read : readEscape ('u' :: (first ++ ('\\' :: 'u' :: (second ++ rest)))) =
        .ok (ofSurrogates high low, rest) := by
      simp [readEscape, isCode.readCode, notLow, isHigh, readLowSurrogate, isCode'.readCode, isLow]
    rw [List.append_assoc]
    exact readText_escape read seen

theorem Spells.readText (h : Spells letters chars) (seen rest : List Char) :
    readText seen (letters ++ '"' :: rest) = .ok (String.ofList (seen.reverse ++ chars), rest) := by
  induction h generalizing seen with
  | nil => rw [List.nil_append, readText_quote, List.append_nil]
  | cons first more ih =>
    rw [List.append_assoc, first.readText, ih, List.reverse_cons, List.append_assoc,
      List.singleton_append]

/-! Every string can be passed over. -/

theorem TextLiteral.append {more : List Char} (h : TextLiteral letters) (h' : TextLiteral more) :
    TextLiteral (letters ++ more) := by
  induction h with
  | nil => exact h'
  | plain quote backslash visible _ ih => exact TextLiteral.plain quote backslash visible ih
  | letter known _ ih => exact TextLiteral.letter known ih
  | code isCode _ ih =>
    rw [List.append_assoc]
    exact TextLiteral.code isCode ih

theorem Spelled.textLiteral (h : Spelled piece c) : TextLiteral piece := by
  cases h with
  | plain quote backslash visible => exact TextLiteral.plain quote backslash visible TextLiteral.nil
  | letter stands => exact TextLiteral.letter (Option.isSome_of_eq_some stands) TextLiteral.nil
  | code isCode low high =>
    rw [← List.append_nil (_ :: _)]
    exact TextLiteral.code isCode TextLiteral.nil
  | pair isCode isCode' isHigh isLow =>
    apply TextLiteral.code isCode
    rw [← List.append_nil (_ :: _)]
    exact TextLiteral.code isCode' TextLiteral.nil

theorem Spells.textLiteral (h : Spells letters chars) : TextLiteral letters := by
  induction h with
  | nil => exact TextLiteral.nil
  | cons first more ih => exact first.textLiteral.append ih

theorem skipText_escape (h : skipEscape text = .ok rest) : skipText ('\\' :: text) = skipText rest := by
  rw [skipText]
  split <;> simp_all

theorem TextLiteral.skipText (h : TextLiteral letters) (rest : List Char) :
    skipText (letters ++ '"' :: rest) = .ok rest := by
  induction h with
  | nil => rw [List.nil_append, Json.skipText]
  | plain quote backslash visible _ ih =>
    rw [List.cons_append, Json.skipText, if_neg visible, ih]
    · exact quote
    · exact backslash
  | @letter letter letters known _ ih =>
    have differs : letter ≠ 'u' := by
      rintro rfl
      cases known
    have skip : skipEscape (letter :: (letters ++ '"' :: rest)) = .ok (letters ++ '"' :: rest) := by
      simp [skipEscape, differs, known]
    rw [List.cons_append, List.cons_append, skipText_escape skip, ih]
  | @code digits letters code isCode _ ih =>
    have skip : skipEscape ('u' :: (digits ++ (letters ++ '"' :: rest))) =
        .ok (letters ++ '"' :: rest) := by
      simp [skipEscape, isCode.readCode]
    rw [List.append_assoc, List.cons_append, List.cons_append, skipText_escape skip, ih]

theorem textLiteral_of_skipText (h : skipText text = .ok rest) :
    ∃ letters, text = letters ++ '"' :: rest ∧ TextLiteral letters := by
  fun_induction skipText text with
  | case1 => cases h
  | case2 after =>
    cases h
    exact ⟨[], rfl, TextLiteral.nil⟩
  | case3 => cases h
  | case4 after behind skip ih =>
    obtain ⟨letters, rfl, literal⟩ := ih h
    unfold skipEscape at skip
    split at skip
    · cases skip
    · split at skip
      · next unicode =>
        subst unicode
        split at skip
        · cases skip
        · next code after read =>
          cases skip
          obtain ⟨digits, rfl, isCode⟩ := code_of_readCode read
          exact ⟨'\\' :: 'u' :: digits ++ letters, by simp, TextLiteral.code isCode literal⟩
      · split at skip
        · next letter after _ known =>
          cases skip
          exact ⟨'\\' :: letter :: letters, rfl, TextLiteral.letter known literal⟩
        · cases skip
  | case5 => cases h
  | case6 c after quote backslash visible ih =>
    obtain ⟨letters, rfl, literal⟩ := ih h
    exact ⟨c :: letters, rfl, TextLiteral.plain quote backslash visible literal⟩

/-- A string ends in one place only. -/
theorem TextLiteral.eq_of_append {other after : List Char} (h : TextLiteral letters)
    (h' : TextLiteral other) (eq : letters ++ '"' :: rest = other ++ '"' :: after) :
    letters = other ∧ rest = after := by
  have skip := h.skipText rest
  rw [eq, h'.skipText after] at skip
  obtain rfl : after = rest := Except.ok.inj skip
  exact ⟨List.append_cancel_right eq, rfl⟩

/-- The string at the front of a text is read if it spells a text, and then it is this one. -/
theorem readText_eq_ok_iff {after : List Char} (h : TextLiteral letters) :
    readText [] (letters ++ '"' :: rest) = .ok (value, after) ↔
      Spells letters value.toList ∧ after = rest := by
  constructor
  · intro read
    obtain ⟨other, chars, eq, spells, rfl⟩ := spells_of_readText read
    obtain ⟨rfl, rfl⟩ := h.eq_of_append spells.textLiteral eq
    exact ⟨by simpa using spells, rfl⟩
  · rintro ⟨spells, rfl⟩
    simpa using spells.readText [] after

end Quarry.Json
