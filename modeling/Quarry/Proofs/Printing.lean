import Quarry.Proofs.Reading
import Quarry.Query.Printer

/-! Reading the text of a query back. The text of a tree derives it exactly when every condition
is printable. No two faults can make up for each other, since whatever derives a tree has the length
of its text, and so the clauses of a list cannot shift. -/

namespace Quarry

open Quarry.Group

variable {text inner clause : List Char} {condition : Condition} {query : Query}

/-- What the query language can say: nothing in it is escaped. -/
structure Condition.Printable (condition : Condition) : Prop where
  equality : condition.field.kind = .text → condition.comparison = .equal
  comma : ',' ∉ condition.literal.toList
  balanced : Balanced condition.literal.toList

/-- The literal as it is printed. -/
def Condition.value (condition : Condition) : List Char :=
  match condition.field.kind with
  | .text => '\'' :: condition.literal.toList ++ ['\'']
  | .number => condition.literal.toList

theorem Condition.letters_eq (condition : Condition) : condition.letters =
    condition.comparison.keyword.group (condition.field.name.toList ++ ',' :: condition.value) := by
  cases kind : condition.field.kind <;>
    simp [Condition.letters, Condition.value, Keyword.group, Comparison.text, kind]

theorem Query.letters_leaf (condition : Condition) :
    (Query.leaf condition).letters = condition.letters := rfl

theorem Query.letters_not (query : Query) :
    (Query.not query).letters = Keyword.not.group query.letters := rfl

theorem Query.letters_all (conditions : List Condition) : (Query.all conditions).letters =
    Keyword.and.group ([','].intercalate (conditions.map (·.letters))) := rfl

theorem Query.letters_any (conditions : List Condition) : (Query.any conditions).letters =
    Keyword.or.group ([','].intercalate (conditions.map (·.letters))) := rfl

theorem Condition.value_of_text (kind : condition.field.kind = .text) :
    condition.value = '\'' :: condition.literal.toList ++ ['\''] := by
  simp [Condition.value, kind]

theorem Condition.value_of_number (kind : condition.field.kind = .number) :
    condition.value = condition.literal.toList := by
  simp [Condition.value, kind]

theorem Condition.spelled_value_iff : Spelled condition condition.value ↔
    (condition.field.kind = .text → condition.comparison = .equal) := by
  cases kind : condition.field.kind with
  | text =>
    rw [spelled_iff_of_text kind, value_of_text kind]
    simp
  | number =>
    rw [spelled_iff_of_number kind, value_of_number kind]
    simp

theorem Condition.comma_mem_value_iff : ',' ∈ condition.value ↔ ',' ∈ condition.literal.toList := by
  cases kind : condition.field.kind with
  | text => simp [value_of_text kind]
  | number => rw [value_of_number kind]

/-- Quotes are no parentheses. -/
theorem balanced_quoted_iff (literal : List Char) :
    Balanced ('\'' :: literal ++ ['\'']) ↔ Balanced literal := by
  rw [balanced_append_iff_left (by decide)]
  exact balanced_append_iff_right (by decide : Balanced ['\'']) literal

theorem Condition.balanced_value_iff :
    Balanced condition.value ↔ Balanced condition.literal.toList := by
  cases kind : condition.field.kind with
  | text => rw [value_of_text kind, balanced_quoted_iff]
  | number => rw [value_of_number kind]

theorem Condition.derives_letters_iff :
    Derives condition.letters condition ↔ condition.Printable := by
  rw [derives_iff, letters_eq]
  refine ⟨?_, ?_⟩
  · rintro ⟨value, spelled, comma, balanced, h⟩
    rw [Keyword.group_inj, List.append_cancel_left_eq, List.cons.injEq] at h
    obtain ⟨-, rfl⟩ := h
    exact ⟨spelled_value_iff.1 spelled, fun h => comma (comma_mem_value_iff.2 h),
      balanced_value_iff.1 balanced⟩
  · rintro ⟨equality, comma, balanced⟩
    exact ⟨_, spelled_value_iff.2 equality, fun h => comma (comma_mem_value_iff.1 h),
      balanced_value_iff.2 balanced, rfl⟩

theorem Condition.Spelled.length_eq (h : Spelled condition text) :
    text.length = condition.value.length := by
  cases kind : condition.field.kind with
  | text =>
    obtain ⟨-, opening, closing, rfl⟩ := (spelled_iff_of_text kind).1 h
    simp [value_of_text kind]
  | number => rw [(spelled_iff_of_number kind).1 h, value_of_number kind]

/-- Quotes may be replaced by other characters, but none are lost. -/
theorem Condition.Derives.length_eq (h : Derives clause condition) :
    clause.length = condition.letters.length := by
  obtain ⟨value, spelled, -, -, rfl⟩ := derives_iff.1 h
  simp [letters_eq, Keyword.group, spelled.length_eq]

theorem Condition.forall₂_derives_letters_iff {conditions : List Condition} :
    (∃ clauses, List.Forall₂ Derives clauses conditions ∧
      [','].intercalate (conditions.map (·.letters)) = [','].intercalate clauses) ↔
    ∀ condition ∈ conditions, condition.Printable := by
  refine ⟨?_, ?_⟩
  · rintro ⟨clauses, derives, eq⟩
    have same : List.Forall₂ (fun piece other => piece.length = other.length)
        (conditions.map (·.letters)) clauses := by
      rw [List.forall₂_map_left_iff]
      exact derives.flip.imp fun _ _ h => (Derives.length_eq h).symm
    obtain rfl := eq_of_intercalate_eq same eq
    rw [List.forall₂_map_left_iff, List.forall₂_same] at derives
    exact fun condition mem => derives_letters_iff.1 (derives condition mem)
  · intro h
    refine ⟨conditions.map (·.letters), ?_, rfl⟩
    rw [List.forall₂_map_left_iff, List.forall₂_same]
    exact fun condition mem => derives_letters_iff.2 (h condition mem)

theorem Query.derives_letters_iff : Derives query.letters query ↔
    ∀ condition ∈ query.conditions, condition.Printable := by
  induction query with
  | leaf condition =>
    rw [derives_leaf_iff, conditions, List.forall_mem_singleton]
    exact Condition.derives_letters_iff
  | not query ih =>
    rw [derives_not_iff, letters_not, conditions, ← ih]
    simp [Keyword.group_inj]
  | all conditions =>
    rw [derives_all_iff, letters_all, Query.conditions, ← Condition.forall₂_derives_letters_iff]
    simp only [Keyword.group_inj]
  | any conditions =>
    rw [derives_any_iff, letters_any, Query.conditions, ← Condition.forall₂_derives_letters_iff]
    simp only [Keyword.group_inj]

/-! The printed text has no blanks around it, and so it is read as it stands. -/

theorem Keyword.trim_group (keyword : Keyword) (inner : List Char) :
    Text.trim (keyword.group inner) = keyword.group inner := by
  cases keyword <;> exact Text.trim_of_not_blank rfl rfl _

theorem Query.trim_letters (query : Query) : Text.trim query.letters = query.letters := by
  cases query with
  | leaf condition => rw [letters_leaf, Condition.letters_eq, Keyword.trim_group]
  | not query => rw [letters_not, Keyword.trim_group]
  | all conditions => rw [letters_all, Keyword.trim_group]
  | any conditions => rw [letters_any, Keyword.trim_group]

theorem Query.ofText_text_eq_ok_iff_derives {other : Query} : ofText query.text = .ok other ↔
    other.negations ≤ maxNegations ∧ Derives query.letters other := by
  rw [ofText_eq_ok_iff_readTree, readTree_eq_ok_nil_iff, text, String.toList_ofList, trim_letters]

/-- Printing and reading are inverse exactly on the printable trees. -/
theorem Query.ofText_text_eq_ok_iff (query : Query) : ofText query.text = .ok query ↔
    query.negations ≤ 64 ∧ ∀ condition ∈ query.conditions, condition.Printable := by
  rw [ofText_text_eq_ok_iff_derives, derives_letters_iff]
  rfl

/-! A tree that has been read has no commas in its literals, and numbers alone are ordered. But the
characters around a literal may be parentheses, and without them it need not be balanced. -/

theorem Condition.Derives.equality (h : Derives clause condition)
    (kind : condition.field.kind = .text) : condition.comparison = .equal := by
  obtain ⟨value, spelled, -⟩ := derives_iff.1 h
  exact ((spelled_iff_of_text kind).1 spelled).1

theorem Condition.Derives.comma_notMem (h : Derives clause condition) :
    ',' ∉ condition.literal.toList := by
  obtain ⟨value, spelled, comma, -⟩ := derives_iff.1 h
  cases kind : condition.field.kind with
  | text =>
    obtain ⟨-, opening, closing, rfl⟩ := (spelled_iff_of_text kind).1 spelled
    exact fun mem => comma (by simp [mem])
  | number => exact (spelled_iff_of_number kind).1 spelled ▸ comma

theorem Condition.Derives.balanced_literal (h : Derives clause condition)
    (kind : condition.field.kind = .number) : Balanced condition.literal.toList := by
  obtain ⟨value, spelled, -, balanced, -⟩ := derives_iff.1 h
  exact (spelled_iff_of_number kind).1 spelled ▸ balanced

/-- What is printable about a condition because it has been read. -/
structure Condition.Legible (condition : Condition) : Prop where
  equality : condition.field.kind = .text → condition.comparison = .equal
  comma : ',' ∉ condition.literal.toList
  balanced : condition.field.kind = .number → Balanced condition.literal.toList

theorem Condition.Derives.legible (h : Derives clause condition) : condition.Legible :=
  ⟨h.equality, h.comma_notMem, h.balanced_literal⟩

theorem Condition.Legible.printable_iff (h : condition.Legible) : condition.Printable ↔
    (condition.field.kind = .text → Balanced condition.literal.toList) := by
  refine ⟨?_, ?_⟩
  · exact fun printable _ => printable.balanced
  · intro balanced
    refine ⟨h.equality, h.comma, ?_⟩
    cases kind : condition.field.kind with
    | text => exact balanced kind
    | number => exact h.balanced kind

theorem exists_clause_of_mem {clauses : List (List Char)} {conditions : List Condition}
    (h : List.Forall₂ Condition.Derives clauses conditions) (mem : condition ∈ conditions) :
    ∃ clause, Condition.Derives clause condition := by
  induction h with
  | nil => cases mem
  | cons derives more ih =>
    rcases List.mem_cons.1 mem with rfl | mem
    · exact ⟨_, derives⟩
    · exact ih mem

theorem Query.Derives.exists_clause (h : Query.Derives text query) (mem : condition ∈ query.conditions) :
    ∃ clause, Condition.Derives clause condition := by
  induction h with
  | leaf h =>
    obtain rfl := List.mem_singleton.1 mem
    exact ⟨_, h⟩
  | not h ih => exact ih mem
  | all h => exact exists_clause_of_mem h mem
  | any h => exact exists_clause_of_mem h mem

/-- A query that has been read can be printed and read again exactly when its text literals are
balanced. Nothing else that printing needs can be missing. -/
theorem Query.ofText_text_of_ofText {raw : String} (h : ofText raw = .ok query) :
    (ofText query.text = .ok query ↔ ∀ condition ∈ query.conditions,
      condition.field.kind = .text → Balanced condition.literal.toList) ∧
    query.negations ≤ 64 ∧ ∀ condition ∈ query.conditions, condition.Legible := by
  rw [ofText_eq_ok_iff_readTree, readTree_eq_ok_nil_iff] at h
  obtain ⟨bound, derives⟩ := h
  have legible : ∀ condition ∈ query.conditions, condition.Legible := by
    intro condition mem
    obtain ⟨clause, derives⟩ := derives.exists_clause mem
    exact derives.legible
  refine ⟨?_, bound, legible⟩
  rw [ofText_text_eq_ok_iff_derives, derives_letters_iff, and_iff_right bound]
  exact forall₂_congr fun condition mem => (legible condition mem).printable_iff

theorem Query.ofText_text_of_ofText_not :
    let query := Query.not (.leaf ⟨.equal, .title, "a)"⟩)
    ofText " NOT(EQUAL(title,(a)b))" = .ok query ∧
      (ofText query.text = .ok query ↔ ∀ condition ∈ query.conditions,
        condition.field.kind = .text → Balanced condition.literal.toList) ∧
      query.negations ≤ 64 ∧ ∀ condition ∈ query.conditions, condition.Legible := by
  intro query
  have read : ofText " NOT(EQUAL(title,(a)b))" = .ok query := rfl
  exact ⟨read, ofText_text_of_ofText read⟩

/-- Two parentheses that do not belong together may stand for quotes, and leave a text behind that
quotes cannot hold. -/
theorem Query.not_forall_ofText_text :
    ¬ ∀ raw query, ofText raw = .ok query → ofText query.text = .ok query := by
  intro h
  have read : ofText "EQUAL(id,(a)b)" = .ok (.leaf ⟨.equal, .id, "a)"⟩) := rfl
  obtain ⟨-, back⟩ := ofText_text_eq_ok_iff_derives.1 (h _ _ read)
  have printable := derives_letters_iff.1 back _ (List.mem_singleton_self _)
  exact absurd printable.balanced (by decide)

end Quarry
