import Mathlib.Data.List.Forall2
import Quarry.Proofs.Balance
import Quarry.Proofs.Pieces
import Quarry.Query.Basic

/-! The grammar of queries, as a relation between texts and the trees that they derive. It speaks
of balanced values and of lists of clauses only, and says nothing about how a text is read. -/

namespace Quarry

open Quarry.Group

/-- A keyword and the group that follows it. -/
def Keyword.group (keyword : Keyword) (inner : List Char) : List Char :=
  keyword.text.toList ++ '(' :: inner ++ [')']

/-- How the literal of a condition may be written. That of a number field stands as it is, that of
a text field, which can only be tested for equality, between any two characters. -/
inductive Condition.Spelled : Condition → List Char → Prop
  | number {comparison : Comparison} {field : Field} (kind : field.kind = .number)
      (value : List Char) : Spelled ⟨comparison, field, String.ofList value⟩ value
  | text {field : Field} (kind : field.kind = .text) (opening closing : Char)
      (literal : List Char) :
      Spelled ⟨.equal, field, String.ofList literal⟩ (opening :: literal ++ [closing])

inductive Condition.Derives : List Char → Condition → Prop
  | clause {condition : Condition} {value : List Char} (spelled : Spelled condition value)
      (comma : ',' ∉ value) (balanced : Balanced value) :
      Derives (condition.comparison.keyword.group (condition.field.name.toList ++ ',' :: value))
        condition

inductive Query.Derives : List Char → Query → Prop
  | leaf {text : List Char} {condition : Condition} (h : Condition.Derives text condition) :
      Derives text (.leaf condition)
  | not {text : List Char} {query : Query} (h : Derives text query) :
      Derives (Keyword.not.group text) (.not query)
  | all {clauses : List (List Char)} {conditions : List Condition}
      (h : List.Forall₂ Condition.Derives clauses conditions) :
      Derives (Keyword.and.group ([','].intercalate clauses)) (.all conditions)
  | any {clauses : List (List Char)} {conditions : List Condition}
      (h : List.Forall₂ Condition.Derives clauses conditions) :
      Derives (Keyword.or.group ([','].intercalate clauses)) (.any conditions)

variable {text inner clause : List Char} {clauses : List (List Char)} {condition : Condition}
  {conditions : List Condition} {query : Query}

theorem Keyword.group_inj (keyword : Keyword) {other : List Char} :
    keyword.group inner = keyword.group other ↔ inner = other := by
  simp [Keyword.group]

theorem Keyword.group_append (keyword : Keyword) (inner rest : List Char) :
    keyword.group inner ++ rest = keyword.text.toList ++ ('(' :: inner ++ ')' :: rest) := by
  simp [Keyword.group]

theorem Keyword.balanced_group (keyword : Keyword) (h : Balanced inner) :
    Balanced (keyword.group inner) := by
  have plain : Balanced keyword.text.toList := by
    cases keyword <;> decide
  rw [Keyword.group, List.append_assoc]
  exact plain.append h.group

theorem Field.comma_notMem_name (field : Field) : ',' ∉ field.name.toList := by
  cases field <;> decide

theorem Field.balanced_name_append_iff (field : Field) {value : List Char} :
    Balanced (field.name.toList ++ ',' :: value) ↔ Balanced value := by
  have name : Balanced (field.name.toList ++ [',']) := by
    cases field <;> decide
  simpa using balanced_append_iff_right name value

/-! A text can be taken apart along the tree that it derives. -/

theorem Condition.spelled_iff_of_number (kind : condition.field.kind = .number) :
    Spelled condition text ↔ text = condition.literal.toList := by
  obtain ⟨comparison, field, literal⟩ := condition
  refine ⟨?_, ?_⟩
  · intro h
    cases h with
    | number => rw [String.toList_ofList]
    | text other => simp_all
  · rintro rfl
    simpa using Spelled.number kind literal.toList

theorem Condition.spelled_iff_of_text (kind : condition.field.kind = .text) :
    Spelled condition text ↔ condition.comparison = .equal ∧
      ∃ opening closing, text = opening :: condition.literal.toList ++ [closing] := by
  obtain ⟨comparison, field, literal⟩ := condition
  refine ⟨?_, ?_⟩
  · intro h
    cases h with
    | number other => simp_all
    | text _ opening closing literal =>
      exact ⟨rfl, opening, closing, by rw [String.toList_ofList]⟩
  · rintro ⟨rfl, opening, closing, rfl⟩
    simpa using Spelled.text kind opening closing literal.toList

theorem Condition.derives_iff : Condition.Derives text condition ↔ ∃ value,
    Condition.Spelled condition value ∧ ',' ∉ value ∧ Balanced value ∧
      text = condition.comparison.keyword.group (condition.field.name.toList ++ ',' :: value) := by
  refine ⟨?_, ?_⟩
  · rintro ⟨spelled, comma, balanced⟩
    exact ⟨_, spelled, comma, balanced, rfl⟩
  · rintro ⟨value, spelled, comma, balanced, rfl⟩
    exact .clause spelled comma balanced

theorem Query.derives_leaf_iff :
    Query.Derives text (.leaf condition) ↔ Condition.Derives text condition := by
  refine ⟨?_, ?_⟩
  · rintro ⟨h⟩
    exact h
  · exact .leaf

theorem Query.derives_not_iff : Query.Derives text (.not query) ↔
    ∃ inner, Query.Derives inner query ∧ text = Keyword.not.group inner := by
  refine ⟨?_, ?_⟩
  · rintro ⟨⟩
    exact ⟨_, ‹_›, rfl⟩
  · rintro ⟨inner, h, rfl⟩
    exact .not h

theorem Query.derives_all_iff : Query.Derives text (.all conditions) ↔ ∃ clauses,
    List.Forall₂ Condition.Derives clauses conditions ∧
      text = Keyword.and.group ([','].intercalate clauses) := by
  refine ⟨?_, ?_⟩
  · rintro ⟨⟩
    exact ⟨_, ‹_›, rfl⟩
  · rintro ⟨clauses, h, rfl⟩
    exact .all h

theorem Query.derives_any_iff : Query.Derives text (.any conditions) ↔ ∃ clauses,
    List.Forall₂ Condition.Derives clauses conditions ∧
      text = Keyword.or.group ([','].intercalate clauses) := by
  refine ⟨?_, ?_⟩
  · rintro ⟨⟩
    exact ⟨_, ‹_›, rfl⟩
  · rintro ⟨clauses, h, rfl⟩
    exact .any h

/-! What derives a tree starts with the keyword at its head, and closes its groups. -/

theorem Condition.Derives.starts (h : Condition.Derives clause condition) :
    ∃ after, clause = condition.comparison.keyword.text.toList ++ after := by
  obtain ⟨value, -, -, -, rfl⟩ := Condition.derives_iff.1 h
  exact ⟨_, List.append_assoc _ _ _⟩

theorem Condition.Derives.ne_nil (h : Condition.Derives clause condition) : clause ≠ [] := by
  obtain ⟨value, -, -, -, rfl⟩ := Condition.derives_iff.1 h
  simp [Keyword.group]

theorem Condition.Derives.balanced (h : Condition.Derives clause condition) : Balanced clause := by
  obtain ⟨value, -, -, balanced, rfl⟩ := Condition.derives_iff.1 h
  exact Keyword.balanced_group _ ((Field.balanced_name_append_iff _).2 balanced)

theorem balanced_intercalate_of_forall (h : ∀ clause ∈ clauses, Balanced clause) :
    Balanced ([','].intercalate clauses) := by
  induction clauses with
  | nil => exact balanced_nil
  | cons clause clauses ih =>
    rw [List.forall_mem_cons] at h
    cases clauses with
    | nil => simpa using h.1
    | cons next clauses =>
      rw [List.intercalate_cons_cons]
      exact (h.1.append (by decide)).append (ih h.2)

theorem balanced_intercalate (h : List.Forall₂ Condition.Derives clauses conditions) :
    Balanced ([','].intercalate clauses) := by
  apply balanced_intercalate_of_forall
  induction h with
  | nil => exact List.forall_mem_nil _
  | cons derives more ih => exact List.forall_mem_cons.2 ⟨derives.balanced, ih⟩

theorem Query.Derives.balanced (h : Query.Derives text query) : Balanced text := by
  induction h with
  | leaf h => exact h.balanced
  | not h ih => exact Keyword.balanced_group _ ih
  | all h => exact Keyword.balanced_group _ (balanced_intercalate h)
  | any h => exact Keyword.balanced_group _ (balanced_intercalate h)

end Quarry
