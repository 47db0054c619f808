import Quarry.Proofs.Printing

/-! Texts of different trees. A printed text is cut at its commas: each clause holds one, between
the name and the literal, and one stands between two clauses. Main statement: as long as the
literals in lists hold none, a printed text is read as the tree that it was printed from or not at
all, even if parentheses in the literals move the ends of its groups. -/

namespace Quarry

open Quarry.Group

variable {text inner clause : List Char} {clauses : List (List Char)}
  {condition other : Condition} {conditions : List Condition} {query : Query}

/-- The conditions of a query that stand in a list. -/
def Query.listed : Query → List Condition
  | .leaf _ => []
  | .not query => query.listed
  | .all conditions | .any conditions => conditions

/-! Clauses. -/

theorem Keyword.group_eq_group_iff {keyword keyword' : Keyword} {inner' : List Char} :
    keyword.group inner = keyword'.group inner' ↔ keyword = keyword' ∧ inner = inner' := by
  refine ⟨?_, ?_⟩
  · intro eq
    have front : keyword.text.toList <+: keyword'.text.toList ++ ('(' :: inner' ++ [')']) := by
      rw [← List.append_assoc]
      exact ⟨_, by rw [← group, ← eq, group, List.append_assoc]⟩
    obtain rfl := Keyword.eq_of_prefix front
    exact ⟨rfl, (group_inj _).1 eq⟩
  · rintro ⟨rfl, rfl⟩
    rfl

theorem Keyword.count_comma_clause (keyword : Keyword) (field : Field) {value : List Char}
    (h : ',' ∉ value) : (keyword.group (field.name.toList ++ ',' :: value)).count ',' = 1 := by
  have word : keyword.text.toList.count ',' = 0 := by
    cases keyword <;> decide
  have name : field.name.toList.count ',' = 0 := List.count_eq_zero.2 field.comma_notMem_name
  simp [group, word, name, List.count_eq_zero.2 h]

theorem Condition.Derives.count_comma (h : Derives clause condition) : clause.count ',' = 1 := by
  obtain ⟨value, -, comma, -, rfl⟩ := derives_iff.1 h
  exact Keyword.count_comma_clause _ _ comma

theorem Condition.count_comma_of_derives (h : List.Forall₂ Derives clauses conditions) :
    ∀ clause ∈ clauses, clause.count ',' = 1 := by
  induction h with
  | nil => exact List.forall_mem_nil _
  | cons derives more ih => exact List.forall_mem_cons.2 ⟨derives.count_comma, ih⟩

theorem Condition.count_comma_letters (h : ',' ∉ condition.literal.toList) :
    condition.letters.count ',' = 1 := by
  rw [letters_eq]
  exact Keyword.count_comma_clause _ _ fun mem => h (comma_mem_value_iff.1 mem)

theorem Comparison.keyword_inj {comparison comparison' : Comparison}
    (h : comparison.keyword = comparison'.keyword) : comparison = comparison' := by
  have eq := comparison.comparison?_keyword
  rw [h, comparison'.comparison?_keyword] at eq
  exact (Option.some.inj eq).symm

theorem Condition.eq_of_spelled_value (h : Spelled other condition.value)
    (comparison : other.comparison = condition.comparison) (field : other.field = condition.field) :
    other = condition := by
  have literal : other.literal.toList = condition.literal.toList := by
    cases kind : condition.field.kind with
    | text =>
      obtain ⟨-, opening, closing, eq⟩ := (spelled_iff_of_text (field ▸ kind)).1 h
      rw [value_of_text kind] at eq
      exact (List.append_inj_left' (List.cons.inj eq).2 rfl).symm
    | number =>
      rw [← (spelled_iff_of_number (field ▸ kind)).1 h, value_of_number kind]
  cases other
  cases condition
  simp_all [String.toList_inj]

/-- A clause is read as the condition that it was printed from: its first comma ends the name. -/
theorem Condition.eq_of_derives_letters (h : Derives condition.letters other) :
    other = condition := by
  obtain ⟨value, spelled, comma, -, eq⟩ := derives_iff.1 h
  rw [letters_eq, Keyword.group_eq_group_iff] at eq
  obtain ⟨keyword, eq⟩ := eq
  obtain ⟨name, -, rfl⟩ :=
    (List.append_cons_inj_of_notMem other.field.comma_notMem_name comma).1 eq.symm
  apply Condition.eq_of_spelled_value spelled
  · exact (Comparison.keyword_inj keyword).symm
  · exact Field.name_inj (String.toList_inj.1 name)

theorem Condition.eq_of_derives_intercalate {read : List Condition}
    (plain : ∀ condition ∈ conditions, ',' ∉ condition.literal.toList)
    (h : List.Forall₂ Derives clauses read)
    (eq : [','].intercalate (conditions.map (·.letters)) = [','].intercalate clauses) :
    read = conditions := by
  have once : ∀ clause ∈ conditions.map (·.letters), clause.count ',' = 1 := by
    intro clause mem
    obtain ⟨condition, mem', rfl⟩ := List.mem_map.1 mem
    exact Condition.count_comma_letters (plain condition mem')
  obtain rfl := intercalate_inj once (count_comma_of_derives h) eq
  rw [List.forall₂_map_left_iff] at h
  have same : List.Forall₂ (· = ·) conditions read :=
    h.imp fun _ _ derives => (Condition.eq_of_derives_letters derives).symm
  rw [List.forall₂_eq_eq_eq] at same
  exact same.symm

/-! Expressions. -/

namespace Query

theorem exists_letters_eq_group (query : Query) :
    ∃ inner, query.letters = query.head.group inner := by
  cases query with
  | leaf condition => exact ⟨_, condition.letters_eq⟩
  | not query => exact ⟨_, letters_not query⟩
  | all conditions => exact ⟨_, letters_all conditions⟩
  | any conditions => exact ⟨_, letters_any conditions⟩

theorem Derives.exists_eq_group (h : Derives text query) :
    ∃ inner, text = query.head.group inner := by
  cases h with
  | leaf derives =>
    obtain ⟨value, -, -, -, eq⟩ := Condition.derives_iff.1 derives
    exact ⟨_, eq⟩
  | not derives => exact ⟨_, rfl⟩
  | all derives => exact ⟨_, rfl⟩
  | any derives => exact ⟨_, rfl⟩

theorem Derives.head_eq {read : Query} (h : Derives query.letters read) :
    read.head = query.head := by
  obtain ⟨inner, eq⟩ := query.exists_letters_eq_group
  obtain ⟨inner', eq'⟩ := h.exists_eq_group
  rw [eq'] at eq
  exact (Keyword.group_eq_group_iff.1 eq).1

/-- The keyword at the head tells what kind of expression it is. -/
theorem exists_eq_of_head_eq {read : Query} (h : read.head = query.head) :
    match query with
    | .leaf _ => ∃ condition, read = .leaf condition
    | .not _ => ∃ below, read = .not below
    | .all _ => ∃ conditions, read = .all conditions
    | .any _ => ∃ conditions, read = .any conditions := by
  have word : ∀ comparison : Comparison, comparison.keyword ≠ .not ∧ comparison.keyword ≠ .and ∧
      comparison.keyword ≠ .or := by
    intro comparison
    cases comparison <;> decide
  cases query with
  | leaf condition =>
    obtain ⟨not, and, or⟩ := word condition.comparison
    cases read with
    | leaf other => exact ⟨other, rfl⟩
    | not below => exact absurd h.symm not
    | all others => exact absurd h.symm and
    | any others => exact absurd h.symm or
  | not query =>
    cases read with
    | not below => exact ⟨below, rfl⟩
    | leaf other => exact absurd h (word other.comparison).1
    | all others | any others => cases h
  | all conditions =>
    cases read with
    | all others => exact ⟨others, rfl⟩
    | leaf other => exact absurd h (word other.comparison).2.1
    | not below | any others => cases h
  | any conditions =>
    cases read with
    | any others => exact ⟨others, rfl⟩
    | leaf other => exact absurd h (word other.comparison).2.2
    | not below | all others => cases h

/-- A printed text derives no other tree. -/
theorem eq_of_derives_letters {read : Query}
    (plain : ∀ condition ∈ query.listed, ',' ∉ condition.literal.toList)
    (h : Derives query.letters read) : read = query := by
  have kind := exists_eq_of_head_eq h.head_eq
  induction query generalizing read with
  | leaf condition =>
    obtain ⟨other, rfl⟩ := kind
    rw [Condition.eq_of_derives_letters (derives_leaf_iff.1 h)]
  | not query ih =>
    obtain ⟨below, rfl⟩ := kind
    obtain ⟨inner, derives, eq⟩ := derives_not_iff.1 h
    rw [letters_not, Keyword.group_inj] at eq
    subst eq
    rw [ih plain derives (exists_eq_of_head_eq derives.head_eq)]
  | all conditions =>
    obtain ⟨others, rfl⟩ := kind
    obtain ⟨clauses, derives, eq⟩ := derives_all_iff.1 h
    rw [letters_all, Keyword.group_inj] at eq
    exact congrArg all (Condition.eq_of_derives_intercalate plain derives eq)
  | any conditions =>
    obtain ⟨others, rfl⟩ := kind
    obtain ⟨clauses, derives, eq⟩ := derives_any_iff.1 h
    rw [letters_any, Keyword.group_inj] at eq
    exact congrArg any (Condition.eq_of_derives_intercalate plain derives eq)

/-- A printed text is read as the tree that it was printed from, or refused. -/
theorem ofText_text_eq_ok_or_error
    (plain : ∀ condition ∈ query.listed, ',' ∉ condition.literal.toList) :
    ofText query.text = .ok query ∨ ∃ e, ofText query.text = .error e := by
  cases result : ofText query.text with
  | ok read =>
    obtain ⟨-, derives⟩ := ofText_text_eq_ok_iff_derives.1 result
    rw [eq_of_derives_letters plain derives]
    exact Or.inl rfl
  | error e => exact Or.inr ⟨e, rfl⟩

/-- Parentheses of two literals that make up for each other are noticed by the commas that they then
enclose. -/
theorem ofText_text_eq_ok_or_error_any :
    let query := not (any [⟨.equal, .title, "a(b"⟩, ⟨.equal, .id, "c)d"⟩])
    (∀ condition ∈ query.listed, ',' ∉ condition.literal.toList) ∧
      (ofText query.text = .ok query ∨ ∃ e, ofText query.text = .error e) := by
  intro query
  have plain : ∀ condition ∈ query.listed, ',' ∉ condition.literal.toList := by decide
  exact ⟨plain, ofText_text_eq_ok_or_error plain⟩

/-- With a comma in it, a literal can end its clause and start another one. -/
example : ofText (all [⟨.equal, .id, "a'),EQUAL(title,'b"⟩]).text =
    .ok (all [⟨.equal, .id, "a"⟩, ⟨.equal, .title, "b"⟩]) := by
  decide +kernel

end Query

end Quarry
