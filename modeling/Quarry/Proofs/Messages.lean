import Mathlib.Tactic.Common
import Quarry.Proofs.Numeral
import Quarry.Query.Error

/-! Which messages are single lines. Quoted text and numbers never break a line, so that only text that
a message takes over as it is can do so. Main statement: the message of an error has a line break only
if such a text has one. -/

namespace Quarry

namespace Text

variable {text other : String} {letters : List Char}

def SingleLine (text : String) : Prop :=
  '\n' ∉ text.toList

instance : Decidable (SingleLine text) :=
  inferInstanceAs (Decidable ('\n' ∉ text.toList))

theorem SingleLine.append (h : SingleLine text) (h' : SingleLine other) :
    SingleLine (text ++ other) := by
  rw [SingleLine, String.toList_append, List.mem_append, not_or]
  exact ⟨h, h'⟩

theorem singleLine_ofList_iff : SingleLine (String.ofList letters) ↔ '\n' ∉ letters := by
  simp [SingleLine]

theorem singleLine_join {texts : List String} (h : ∀ text ∈ texts, SingleLine text) :
    SingleLine (String.join texts) := by
  intro mem
  rw [String.toList_join, List.mem_flatMap] at mem
  obtain ⟨text, mem, mem'⟩ := mem
  exact h text mem mem'

theorem singleLine_intercalate {separator : String} {texts : List String}
    (h : SingleLine separator) (h' : ∀ text ∈ texts, SingleLine text) :
    SingleLine (String.intercalate separator texts) := by
  induction texts with
  | nil => exact List.not_mem_nil
  | cons text texts ih =>
    have first := h' text List.mem_cons_self
    have more : ∀ text ∈ texts, SingleLine text := fun text mem => h' text (List.mem_cons_of_mem _ mem)
    cases texts with
    | nil => simpa using first
    | cons next texts =>
      rw [String.intercalate_cons_cons]
      exact (first.append h).append (ih more)

theorem newline_notMem_toDigits {base : Nat} (more : 1 < base) (le : base ≤ 16) (n : Nat) :
    '\n' ∉ Nat.toDigits base n := by
  intro mem
  have visible := Json.visible_of_mem_toDigits more le mem
  exact absurd visible (by decide)

theorem singleLine_toString_nat (n : Nat) : SingleLine (toString n) := by
  rw [Nat.toString_eq_ofList_toDigits, singleLine_ofList_iff]
  exact newline_notMem_toDigits (by decide) (by decide) n

theorem singleLine_toString_int (n : Int) : SingleLine (toString n) := by
  cases n with
  | ofNat n => exact singleLine_toString_nat n
  | negSucc n =>
    have sign : SingleLine "-" := by decide
    exact sign.append (singleLine_toString_nat (n + 1))

theorem singleLine_quotedChar (c : Char) : SingleLine (quotedChar c) := by
  unfold quotedChar
  split_ifs with quote backslash newline
  all_goals try decide
  · exact singleLine_ofList_iff.2 fun mem => newline (List.mem_singleton.1 mem).symm
  · have code : '\n' ∉ Nat.toDigits 16 c.toNat := newline_notMem_toDigits (by decide) (by decide) _
    exact .append (.append (by decide) (singleLine_ofList_iff.2 code)) (by decide)

theorem singleLine_quote (text : String) : SingleLine (quote text) := by
  have chars : SingleLine (String.join (text.toList.map quotedChar)) := by
    apply singleLine_join
    intro part mem
    obtain ⟨c, -, rfl⟩ := List.mem_map.1 mem
    exact singleLine_quotedChar c
  exact .append (.append (by decide) chars) (by decide)

end Text

open Text

/-! Decimals. -/

namespace Binary64

variable {digits : List Char}

theorem newline_notMem_positional (h : '\n' ∉ digits) (leading : Int) :
    '\n' ∉ positional digits leading := by
  have padded : ∀ n, '\n' ∉ digits ++ List.replicate n '0' := by
    intro n
    simp [h]
  unfold positional
  split
  · simp [h]
  · simp only [List.mem_append, List.mem_cons, not_or]
    refine ⟨fun mem => padded _ (List.mem_of_mem_take mem), by decide, ?_⟩
    split
    · decide
    · exact fun mem => padded _ (List.mem_of_mem_drop mem)

theorem newline_notMem_scientific (h : '\n' ∉ digits) (leading : Int) :
    '\n' ∉ scientific digits leading := by
  have exponent : '\n' ∉ Nat.toDigits 10 leading.natAbs :=
    newline_notMem_toDigits (by decide) (by decide) _
  have fraction : '\n' ∉ digits.drop 1 := fun mem => h (List.mem_of_mem_drop mem)
  unfold scientific
  simp only [List.mem_append, List.mem_cons, not_or]
  refine ⟨⟨fun mem => h (List.mem_of_mem_take mem), ?_⟩, by decide, ?_, exponent⟩
  · split
    · exact List.not_mem_nil
    · rw [List.mem_cons, not_or]
      exact ⟨by decide, fraction⟩
  · split <;> decide

theorem newline_notMem_letters (x : Binary64) : '\n' ∉ x.letters := by
  have written : ∀ n, '\n' ∉ ((Nat.toDigits 10 n).reverse.dropWhile (· = '0')).reverse := by
    intro n mem
    rw [List.mem_reverse] at mem
    have mem' := (List.dropWhile_sublist _).mem mem
    exact newline_notMem_toDigits (by decide) (by decide) n (List.mem_reverse.1 mem')
  unfold letters
  split
  · decide
  · dsimp only
    split
    · exact newline_notMem_positional (written _) _
    · exact newline_notMem_scientific (written _) _

end Binary64

/-! Errors in JSON texts. -/

namespace Json

theorem singleLine_inBackticks {text : String} (h : SingleLine text) :
    SingleLine (inBackticks text) :=
  .append (.append (by decide) h) (by decide)

theorem Found.singleLine_describe (found : Found) : SingleLine found.describe := by
  cases found with
  | null | list | object => decide
  | boolean value =>
    have word : SingleLine (if value then "true" else "false") := by
      cases value <;> decide
    exact .append (by decide) (singleLine_inBackticks word)
  | integer value =>
    exact .append (by decide) (singleLine_inBackticks (singleLine_toString_int value))
  | decimal negative value =>
    have sign : SingleLine (if negative then "-" else "") := by
      cases negative <;> decide
    have letters := singleLine_ofList_iff.2 value.newline_notMem_letters
    exact .append (by decide) (singleLine_inBackticks (sign.append letters))
  | text value => exact .append (by decide) (singleLine_quote value)

/-- The texts that a message takes over as they are. -/
@[grind] def Error.parts : Error → List String
  | .wrongType _ wanted | .wrongValue _ wanted | .wrongLength _ wanted => [wanted]
  | .missingField name | .duplicateField name => [name]
  | .unknownField name known => name :: known
  | .endInValue | .endInObject | .endInList | .endInText | .expectedValue | .expectedWord
  | .expectedKey | .expectedColon | .expectedObjectEnd | .expectedListEnd | .trailingComma
  | .trailingCharacters | .invalidNumber | .numberOutOfRange | .invalidEscape | .controlCharacter
  | .loneSurrogate | .unfinishedSurrogate => []

/-- All that the message takes over is on a single line. -/
def Error.Plain (error : Error) : Prop :=
  ∀ part ∈ error.parts, SingleLine part

theorem Error.Plain.singleLine_message {error : Error} (h : error.Plain) :
    SingleLine error.message := by
  cases error with
  | wrongType found wanted | wrongValue found wanted =>
    have wanted := h wanted List.mem_cons_self
    exact .append (.append (.append (by decide) found.singleLine_describe) (by decide)) wanted
  | wrongLength length wanted =>
    have wanted := h wanted List.mem_cons_self
    exact .append (.append (.append (by decide) (singleLine_toString_nat length)) (by decide)) wanted
  | missingField name | duplicateField name =>
    have name := h name List.mem_cons_self
    exact .append (by decide) (singleLine_inBackticks name)
  | unknownField name known =>
    have name := h name List.mem_cons_self
    have others : ∀ text ∈ known.map inBackticks, SingleLine text := by
      intro text mem
      obtain ⟨other, listed, rfl⟩ := List.mem_map.1 mem
      exact singleLine_inBackticks (h other (List.mem_cons_of_mem _ listed))
    exact .append (.append (.append (by decide) (singleLine_inBackticks name)) (by decide))
      (singleLine_intercalate (by decide) others)
  | expectedColon => exact .append (by decide) (singleLine_inBackticks (by decide))
  | expectedObjectEnd | expectedListEnd =>
    have comma := singleLine_inBackticks (by decide : SingleLine ",")
    exact .append (.append (.append (by decide) comma) (by decide)) (singleLine_inBackticks (by decide))
  | _ => exact singleLine_ofList_iff.2 (by decide)

theorem singleLine_atPlace {message : String} (h : SingleLine message) (place : Option Place) :
    SingleLine (atPlace message place) := by
  cases place with
  | none => exact h
  | some place =>
    have line := singleLine_toString_nat place.line
    have column := singleLine_toString_nat place.column
    exact .append (.append (.append (.append h (by decide)) line) (by decide)) column

end Json

/-! Errors of queries. -/

theorem Keyword.singleLine_text (keyword : Keyword) : SingleLine keyword.text := by
  cases keyword <;> decide

theorem Field.singleLine_name (field : Field) : SingleLine field.name := by
  cases field <;> decide

/-- What stands in a group that holds no pair of values is the only text taken over as it is. -/
def Malformed.parts : Malformed → List String
  | .notPair inner => [inner]
  | _ => []

def QueryError.parts : QueryError → List String
  | .malformed reason => reason.parts
  | .unrecognized _ | .mismatch _ => []

theorem Malformed.singleLine_message {reason : Malformed}
    (h : ∀ part ∈ reason.parts, SingleLine part) : SingleLine reason.message := by
  cases reason with
  | notPair inner =>
    have inner := h inner List.mem_cons_self
    exact .append (.append (by decide) inner) (by decide)
  | notComparison keyword => exact .append keyword.singleLine_text (by decide)
  | tooDeep => exact .append (.append (by decide) (singleLine_toString_nat maxNegations)) (by decide)
  | trailingComma => decide
  | _ => exact .append (by decide) (singleLine_quote _)

theorem Mismatch.singleLine_message (reason : Mismatch) : SingleLine reason.message := by
  cases reason with
  | ordering comparison field =>
    have keyword := comparison.keyword.singleLine_text
    exact .append (.append (.append keyword (by decide)) field.singleLine_name) (by decide)
  | notInteger literal field =>
    exact .append (.append (singleLine_quote literal) (by decide)) field.singleLine_name

theorem QueryError.singleLine_message {error : QueryError}
    (h : ∀ part ∈ error.parts, SingleLine part) : SingleLine error.message := by
  cases error with
  | unrecognized start => exact .append (by decide) (singleLine_quote start)
  | malformed reason => exact .append (by decide) (Malformed.singleLine_message h)
  | mismatch reason => exact .append (by decide) reason.singleLine_message

end Quarry
