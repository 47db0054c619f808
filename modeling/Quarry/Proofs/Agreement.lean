import Mathlib.Data.List.Find
import Quarry.Proofs.Mismatch
import Quarry.Proofs.Printing
import Quarry.Session

/-! A query given as a tree and the same query given as a text. Where no literal breaks up the text
around it, reading can only fail for a text field that is ordered, which selection refuses as well.
Main statement: both ways give the same records, or both fail with a mismatch, and it is the same
one unless a number field is compared with a literal that is no number. -/

namespace Quarry

open Quarry.Group

variable {text inner : List Char} {condition : Condition} {conditions : List Condition}
  {query : Query}

/-- A literal that does not break up the text around it. -/
structure Condition.Plain (condition : Condition) : Prop where
  comma : ',' ∉ condition.literal.toList
  balanced : Balanced condition.literal.toList

/-- Numbers alone are ordered. -/
def Condition.Comparable (condition : Condition) : Prop :=
  condition.field.kind = .text → condition.comparison = .equal

instance : Decidable condition.Plain :=
  decidable_of_iff (',' ∉ condition.literal.toList ∧ Balanced condition.literal.toList)
    ⟨fun h => ⟨h.1, h.2⟩, fun h => ⟨h.comma, h.balanced⟩⟩

instance : Decidable condition.Comparable :=
  inferInstanceAs (Decidable (condition.field.kind = .text → condition.comparison = .equal))

/-- The first condition, from left to right, that orders a text field. -/
def Query.disorder? (query : Query) : Option Condition :=
  query.conditions.find? fun condition => ¬ condition.Comparable

theorem Condition.printable_iff : condition.Printable ↔ condition.Comparable ∧ condition.Plain := by
  refine ⟨?_, ?_⟩
  · intro h
    exact ⟨h.equality, h.comma, h.balanced⟩
  · rintro ⟨comparable, plain⟩
    exact ⟨comparable, plain.comma, plain.balanced⟩

theorem Keyword.read_group_end (keyword : Keyword) (inner : List Char) :
    Keyword.read (keyword.group inner) = .ok (keyword, '(' :: inner ++ [')']) := by
  have read := keyword.read_group inner []
  rwa [List.append_nil] at read

/-! What is printed of a condition that orders a text field. -/

theorem Condition.balanced_letters (plain : condition.Plain) : Balanced condition.letters := by
  rw [letters_eq]
  apply Keyword.balanced_group
  rw [Field.balanced_name_append_iff, balanced_value_iff]
  exact plain.balanced

theorem Condition.letters_ne_nil (condition : Condition) : condition.letters ≠ [] := by
  rw [letters_eq]
  simp [Keyword.group]

theorem Condition.ofParts_of_not_comparable (h : ¬ condition.Comparable) (value : List Char) :
    Condition.ofParts condition.comparison condition.field value =
      .error (.mismatch condition.mismatch) := by
  obtain ⟨kind, ordered⟩ := Classical.not_imp.1 h
  unfold ofParts mismatch
  rw [kind]
  cases comparison : condition.comparison with
  | equal => exact absurd comparison ordered
  | greater => rfl
  | less => rfl

theorem Condition.readAfter_of_not_comparable (plain : condition.Plain)
    (h : ¬ condition.Comparable) (rest : List Char) :
    Condition.readAfter condition.comparison
        ('(' :: (condition.field.name.toList ++ ',' :: condition.value) ++ ')' :: rest) =
      .error (.mismatch condition.mismatch) := by
  have balanced : Balanced (condition.field.name.toList ++ ',' :: condition.value) := by
    rw [Field.balanced_name_append_iff, balanced_value_iff]
    exact plain.balanced
  have comma : ',' ∉ condition.value := by
    rw [comma_mem_value_iff]
    exact plain.comma
  have parts : pair (condition.field.name.toList ++ ',' :: condition.value) =
      .ok (condition.field.name.toList, condition.value) :=
    pair_eq_ok_iff.2 ⟨rfl, condition.field.comma_notMem_name, comma⟩
  have field : Field.read condition.field.name.toList = .ok condition.field :=
    Field.read_eq_ok_iff.2 rfl
  simp only [Condition.readAfter, split_eq_ok_iff.2 ⟨rfl, balanced⟩, parts, field,
    ofParts_of_not_comparable h, ok_bind, error_bind]

theorem Condition.read_of_not_comparable (plain : condition.Plain) (h : ¬ condition.Comparable)
    (rest : List Char) :
    Condition.read (condition.letters ++ rest) = .error (.mismatch condition.mismatch) := by
  rw [Condition.read, letters_eq, Keyword.read_group, ok_bind]
  simp only [Comparison.comparison?_keyword]
  exact readAfter_of_not_comparable plain h rest

theorem Condition.readList_of_read_error {e : QueryError} (h : Condition.read text = .error e)
    (some : text ≠ []) : Condition.readList text = .error e := by
  rw [Condition.readList, if_neg (by simpa using some)]
  split <;> simp_all

/-- The conditions in front of one that orders a text field are read without an error. -/
theorem Condition.readList_of_disorder (plain : ∀ condition ∈ conditions, condition.Plain)
    (h : (conditions.find? fun condition => ¬ condition.Comparable) = some condition) :
    Condition.readList ([','].intercalate (conditions.map (·.letters))) =
      .error (.mismatch condition.mismatch) := by
  induction conditions with
  | nil => cases h
  | cons first conditions ih =>
    rw [List.forall_mem_cons] at plain
    by_cases comparable : first.Comparable
    · rw [List.find?_cons_of_neg (by simpa using comparable)] at h
      cases conditions with
      | nil => cases h
      | cons next conditions =>
        -- more conditions follow, so the first one is read up to a comma and the loop goes on
        have derives := derives_letters_iff.2 (printable_iff.2 ⟨comparable, plain.1⟩)
        have read : Condition.read (first.letters ++
            ',' :: [','].intercalate ((next :: conditions).map (·.letters))) =
              .ok (first, ',' :: [','].intercalate ((next :: conditions).map (·.letters))) :=
          Condition.read_eq_ok_iff.2 ⟨first.letters, derives, rfl⟩
        have more : [','].intercalate ((next :: conditions).map (·.letters)) ≠ [] := by
          rw [List.map_cons, intercalate_cons]
          simp [next.letters_ne_nil]
        have split : [','].intercalate ((first :: next :: conditions).map (·.letters)) =
            first.letters ++ ',' :: [','].intercalate ((next :: conditions).map (·.letters)) := by
          simp [List.intercalate_cons_cons]
        rw [split, Condition.readList_of_read_comma read more, ih plain.2 h]
        rfl
    · rw [List.find?_cons_of_pos (by simpa using comparable)] at h
      obtain rfl := Option.some.inj h
      rw [List.map_cons, intercalate_cons]
      apply Condition.readList_of_read_error
      · exact Condition.read_of_not_comparable plain.1 comparable _
      · simp [first.letters_ne_nil]

theorem Condition.balanced_intercalate_letters
    (plain : ∀ condition ∈ conditions, condition.Plain) :
    Balanced ([','].intercalate (conditions.map (·.letters))) := by
  apply balanced_intercalate_of_forall
  intro clause mem
  obtain ⟨condition, mem', rfl⟩ := List.mem_map.1 mem
  exact balanced_letters (plain condition mem')

/-! Expressions. -/

namespace Query

variable {levels : Nat} {e : QueryError}

theorem balanced_letters (plain : ∀ condition ∈ query.conditions, condition.Plain) :
    Balanced query.letters := by
  induction query with
  | leaf condition => exact Condition.balanced_letters (plain condition (List.mem_singleton_self _))
  | not query ih =>
    rw [letters_not]
    exact Keyword.balanced_group _ (ih plain)
  | all conditions =>
    rw [letters_all]
    exact Keyword.balanced_group _ (Condition.balanced_intercalate_letters plain)
  | any conditions =>
    rw [letters_any]
    exact Keyword.balanced_group _ (Condition.balanced_intercalate_letters plain)

theorem readTree_not_succ_of_error (balanced : Balanced inner)
    (h : (readTree levels inner).result = .error e) :
    (readTree (levels + 1) (Keyword.not.group inner)).result = .error e := by
  have cut : split ('(' :: inner ++ [')']) = .ok (inner, []) := split_eq_ok_iff.2 ⟨rfl, balanced⟩
  rw [readTree]
  simp only [Keyword.read_group_end, cut, h, error_bind]

theorem readConditions_of_error {make : List Condition → Query} (balanced : Balanced inner)
    (h : Condition.readList inner = .error e) :
    readConditions make ('(' :: inner ++ [')']) = .error e := by
  have cut : split ('(' :: inner ++ [')']) = .ok (inner, []) := split_eq_ok_iff.2 ⟨rfl, balanced⟩
  simp only [readConditions, cut, h, ok_bind, error_bind]

theorem readTree_of_disorder (plain : ∀ condition ∈ query.conditions, condition.Plain)
    (bound : query.negations ≤ levels) (h : query.disorder? = some condition) :
    (readTree levels query.letters).result = .error (.mismatch condition.mismatch) := by
  induction query generalizing levels with
  | leaf only =>
    obtain rfl := List.mem_singleton.1 (List.mem_of_find?_eq_some h)
    have disorder : ¬ condition.Comparable := by simpa using List.find?_some h
    have refused := Condition.readAfter_of_not_comparable
      (plain condition (List.mem_singleton_self _)) disorder []
    rw [letters_leaf, Condition.letters_eq, readTree_comparison (Keyword.read_group_end _ _),
      readLeaf, refused, error_bind]
  | not query ih =>
    cases levels with
    | zero => simp [negations] at bound
    | succ levels =>
      have below := ih plain (Nat.le_of_succ_le_succ bound) h
      rw [letters_not]
      exact readTree_not_succ_of_error (query.balanced_letters plain) below
  | all conditions =>
    rw [letters_all, readTree_and (Keyword.read_group_end _ _)]
    exact readConditions_of_error (Condition.balanced_intercalate_letters plain)
      (Condition.readList_of_disorder plain h)
  | any conditions =>
    rw [letters_any, readTree_or (Keyword.read_group_end _ _)]
    exact readConditions_of_error (Condition.balanced_intercalate_letters plain)
      (Condition.readList_of_disorder plain h)

theorem disorder?_eq_none_iff :
    query.disorder? = none ↔ ∀ condition ∈ query.conditions, condition.Comparable := by
  simp [disorder?]

/-- The text of a query is refused for the first text field that it orders, and else read back. -/
theorem ofText_text_of_plain (plain : ∀ condition ∈ query.conditions, condition.Plain)
    (bound : query.negations ≤ maxNegations) : ofText query.text =
      match query.disorder? with
      | none => .ok query
      | some condition => .error (.mismatch condition.mismatch) := by
  cases disorder : query.disorder? with
  | none =>
    have comparable := disorder?_eq_none_iff.1 disorder
    refine ofText_text_eq_ok_iff_derives.2 ⟨bound, derives_letters_iff.2 ?_⟩
    intro condition mem
    exact Condition.printable_iff.2 ⟨comparable condition mem, plain condition mem⟩
  | some condition =>
    have refused := readTree_of_disorder plain bound disorder
    rw [ofText, read, text, String.toList_ofList, trim_letters]
    simp only [refused, error_bind]

/-- A condition that orders a text field does not fit it. -/
theorem exists_misfit_of_disorder (h : query.disorder? = some condition) :
    ∃ other, query.misfit? = some other := by
  have mem := List.mem_of_find?_eq_some h
  have disorder : ¬ condition.Comparable := by simpa using List.find?_some h
  rw [← Option.isSome_iff_exists, misfit?, List.find?_isSome]
  refine ⟨condition, mem, ?_⟩
  rw [decide_eq_true_iff]
  intro typed
  exact disorder typed.equality

theorem misfit?_eq_disorder? (numbers : ∀ condition ∈ query.conditions,
    condition.field.kind = .number → condition.number?.isSome) :
    query.misfit? = query.disorder? := by
  rw [misfit?, disorder?]
  apply List.find?_congr
  intro condition mem
  rw [decide_eq_decide, not_iff_not]
  refine ⟨?_, ?_⟩
  · intro typed
    exact typed.equality
  · intro comparable
    exact ⟨comparable, numbers condition mem⟩

end Query

/-! Both ways of asking. -/

namespace Session

theorem query_fst (session : Session) (text : String) :
    (session.query text).1 = (Query.ofText text).bind session.evaluate := rfl

theorem evaluate_or (session : Session) (query : Query) :
    (∃ records, session.evaluate query = .ok records) ∨
      ∃ reason, session.evaluate query = .error (.mismatch reason) := by
  rw [evaluate]
  cases query.select session.store.records with
  | ok records => exact Or.inl ⟨records, rfl⟩
  | error reason => exact Or.inr ⟨reason, rfl⟩

theorem evaluate_of_misfit (session : Session) (h : query.misfit? = some condition) :
    session.evaluate query = .error (.mismatch condition.mismatch) := by
  rw [evaluate, Query.select_of_misfit h]
  rfl

/-- A query given as a text is answered like the tree that was printed. -/
theorem query_text_agrees (session : Session) (bound : query.negations ≤ 64)
    (plain : ∀ condition ∈ query.conditions, condition.Plain) :
    ((∃ records, (session.query query.text).1 = .ok records ∧
          session.evaluate query = .ok records) ∨
        ∃ reason other, (session.query query.text).1 = .error (.mismatch reason) ∧
          session.evaluate query = .error (.mismatch other)) ∧
      ((∀ condition ∈ query.conditions,
          condition.field.kind = .number → condition.number?.isSome) →
        (session.query query.text).1 = session.evaluate query) := by
  rw [query_fst, Query.ofText_text_of_plain plain bound]
  cases disorder : query.disorder? with
  | none =>
    refine ⟨?_, fun _ => rfl⟩
    rcases session.evaluate_or query with ⟨records, ok⟩ | ⟨reason, failed⟩
    · exact Or.inl ⟨records, ok, ok⟩
    · exact Or.inr ⟨reason, reason, failed, failed⟩
  | some condition =>
    obtain ⟨other, misfit⟩ := Query.exists_misfit_of_disorder disorder
    have failed := session.evaluate_of_misfit misfit
    refine ⟨Or.inr ⟨condition.mismatch, other.mismatch, rfl, failed⟩, ?_⟩
    intro numbers
    rw [Query.misfit?_eq_disorder? numbers, disorder] at misfit
    obtain rfl := Option.some.inj misfit
    exact failed.symm

theorem query_text_agrees_not :
    let session : Session := ⟨⟨[⟨"1", "(b)", "", 7, 0⟩]⟩, true⟩
    let query := Query.not (.all [⟨.greater, .views, " +5"⟩, ⟨.less, .title, "(a)"⟩])
    query.negations ≤ 64 ∧ (∀ condition ∈ query.conditions, condition.Plain) ∧
      (∀ condition ∈ query.conditions,
        condition.field.kind = .number → condition.number?.isSome) ∧
      (session.query query.text).1 = session.evaluate query ∧
      session.evaluate query = .error (.mismatch (.ordering .less .title)) := by
  intro session query
  have bound : query.negations ≤ 64 := by decide
  have plain : ∀ condition ∈ query.conditions, condition.Plain := by decide
  have numbers : ∀ condition ∈ query.conditions,
      condition.field.kind = .number → condition.number?.isSome := by decide
  exact ⟨bound, plain, numbers, (session.query_text_agrees bound plain).2 numbers, rfl⟩

end Session

end Quarry
