import Quarry.Proofs.Answers
import Quarry.Proofs.IntegerText

/-! Numbers in queries. A literal counts for the number that it stands for, whether or not it has
blanks around it, a sign or zeros in front. Main statement: such literals can be exchanged anywhere
in a query, and comparisons with them are those of the integers, up to the ends of the range. -/

namespace Quarry

/-- Blanks around a literal are left out. -/
def Literal.Denotes (literal : String) (value : Int64) : Prop :=
  Integer.Denotes (Text.trim literal.toList) value.toInt

/-- The same condition, but for how its number is written. -/
structure Condition.Restates (condition other : Condition) : Prop where
  comparison : condition.comparison = other.comparison
  field : condition.field = other.field
  literal : condition.literal = other.literal ∨ condition.field.kind = .number ∧
    ∃ value, Literal.Denotes condition.literal value ∧ Literal.Denotes other.literal value

/-- The same query, but for how its numbers are written. -/
inductive Query.Restates : Query → Query → Prop
  | leaf {condition other : Condition} (h : condition.Restates other) :
    Restates (.leaf condition) (.leaf other)
  | not {query other : Query} (h : Restates query other) : Restates (.not query) (.not other)
  | all {conditions others : List Condition}
    (h : List.Forall₂ Condition.Restates conditions others) :
    Restates (.all conditions) (.all others)
  | any {conditions others : List Condition}
    (h : List.Forall₂ Condition.Restates conditions others) :
    Restates (.any conditions) (.any others)

variable {condition other : Condition} {conditions others : List Condition} {query : Query}
  {comparison : Comparison} {field : Field} {literal next : String} {value : Int64}
  {record : Record}

theorem Condition.number?_eq_some_iff :
    condition.number? = some value ↔ Literal.Denotes condition.literal value :=
  Integer.ofText64?_eq_some_iff

theorem Condition.wellTyped_iff : condition.WellTyped ↔
    (condition.field.kind = .text → condition.comparison = .equal) ∧
      (condition.field.kind = .number → ∃ n,
        Integer.Denotes (Text.trim condition.literal.toList) n ∧
          -9223372036854775808 ≤ n ∧ n ≤ 9223372036854775807) := by
  rw [← Integer.isSome_ofText64?_iff]
  exact ⟨fun typed => ⟨typed.equality, typed.number⟩, fun h => ⟨h.1, h.2⟩⟩

/-! Literals with the same value. -/

theorem Condition.Restates.test (h : condition.Restates other) : condition.test = other.test := by
  obtain ⟨comparison, field, literal⟩ := condition
  obtain ⟨comparison', field', literal'⟩ := other
  obtain ⟨rfl, rfl, same | ⟨number, value, here, there⟩⟩ := h
  · obtain rfl : literal = literal' := same
    rfl
  · have here : Integer.ofText64? (Text.trim literal.toList) = some value :=
      Integer.ofText64?_eq_some_iff.2 here
    have there : Integer.ofText64? (Text.trim literal'.toList) = some value :=
      Integer.ofText64?_eq_some_iff.2 there
    have number : field.kind = .number := number
    simp only [Condition.test, number, here, there]

namespace Query

/-- A step that looks at nothing but the test of a condition goes alike through both lists. -/
theorem foldlM_restates {step : List Row → Condition → Except Mismatch (List Row)}
    (alike : ∀ condition other, condition.test = other.test →
      ∀ rows, step rows condition = step rows other)
    (h : List.Forall₂ Condition.Restates conditions others) (rows : List Row) :
    conditions.foldlM step rows = others.foldlM step rows := by
  induction h generalizing rows with
  | nil => rfl
  | cons first _ ih => simp only [List.foldlM_cons, alike _ _ first.test, ih]

theorem Restates.selectRows {other : Query} (h : query.Restates other) (rows : List Row) :
    query.selectRows rows = other.selectRows rows := by
  induction h with
  | @leaf condition other h =>
    change narrow rows condition = narrow rows other
    rw [narrow, narrow, h.test]
  | not h ih => rw [Query.selectRows, Query.selectRows, ih]
  | all h =>
    refine foldlM_restates ?_ h rows
    intro condition other test rows
    rw [narrow, narrow, test]
  | any h =>
    refine foldlM_restates ?_ h []
    intro condition other test found
    rw [widen, widen, test]

/-! Comparisons with a number. -/

theorem number?_of_denotes (denotes : Literal.Denotes literal value) :
    (⟨comparison, field, literal⟩ : Condition).number? = some value :=
  Condition.number?_eq_some_iff.2 denotes

theorem wellTyped_leaf_number (number : field.kind = .number) (denotes : Literal.Denotes literal value)
    (comparison : Comparison) : (leaf ⟨comparison, field, literal⟩).WellTyped := by
  intro condition mem
  obtain rfl := List.mem_singleton.1 mem
  refine ⟨fun text => ?_, fun _ => ?_⟩
  · rw [number] at text
    cases text
  · rw [number?_of_denotes denotes]
    rfl

theorem satisfied_leaf_number (denotes : Literal.Denotes literal value) {stored : Int64}
    (get : record.get field = .number stored) :
    (leaf ⟨comparison, field, literal⟩).Satisfied record ↔
      comparison.Relates stored.toInt value.toInt := by
  rw [Satisfied, Condition.holds_of_number get, number?_of_denotes denotes]
  simp

/-- Three properties of which every row has exactly one share out the rows. -/
theorem filter_three_perm {p q r : Row → Bool} (first : ∀ row, p row → ¬ q row ∧ ¬ r row)
    (others : ∀ row, ¬ p row → (r row ↔ ¬ q row)) (rows : List Row) :
    (rows.filter p ++ rows.filter q ++ rows.filter r).Perm rows := by
  have here : (rows.filter fun row => !p row).filter q = rows.filter q := by
    rw [List.filter_filter]
    refine List.filter_congr fun row _ => ?_
    rw [Bool.eq_iff_iff, Bool.and_eq_true, Bool.not_eq_true', Bool.eq_false_iff]
    exact ⟨And.left, fun holds => ⟨holds, fun h => (first row h).1 holds⟩⟩
  have there : ((rows.filter fun row => !p row).filter fun row => !q row) = rows.filter r := by
    rw [List.filter_filter]
    refine List.filter_congr fun row _ => ?_
    rw [Bool.eq_iff_iff, Bool.and_eq_true, Bool.not_eq_true', Bool.not_eq_true', Bool.eq_false_iff,
      Bool.eq_false_iff]
    refine ⟨fun h => (others row h.2).2 h.1, fun holds => ?_⟩
    have outside : ¬ p row := fun h => (first row h).2 holds
    exact ⟨(others row outside).1 holds, outside⟩
  have parts := List.filter_append_perm q (rows.filter fun row => !p row)
  rw [here, there] at parts
  rw [List.append_assoc]
  exact (parts.append_left _).trans (List.filter_append_perm p rows)

/-- Every row stands in one of the three relations to a number. -/
theorem chosen_comparisons_perm (number : field.kind = .number)
    (denotes : Literal.Denotes literal value) (rows : List Row) :
    ((leaf ⟨.equal, field, literal⟩).chosen rows ++ (leaf ⟨.greater, field, literal⟩).chosen rows ++
      (leaf ⟨.less, field, literal⟩).chosen rows).Perm rows := by
  apply filter_three_perm
  · intro row
    obtain ⟨stored, get⟩ := row.1.get_of_number number
    simp only [decide_eq_true_iff, satisfied_leaf_number denotes get, Comparison.Relates]
    omega
  · intro row
    obtain ⟨stored, get⟩ := row.1.get_of_number number
    simp only [decide_eq_true_iff, satisfied_leaf_number denotes get, Comparison.Relates]
    omega

theorem toInt_add_one (h : value < Int64.maxValue) : (value + 1).toInt = value.toInt + 1 := by
  have low := Int64.le_toInt value
  have high := Int64.lt_iff_toInt_lt.1 h
  rw [Int64.toInt_maxValue] at high
  rw [Int64.toInt_add, Int64.toInt_one]
  -- no overflow below the greatest number
  exact Int.bmod_eq_of_le (by omega) (by omega)

/-- Greater than a number is not less than the next one. -/
theorem greater_alike_not_less (number : field.kind = .number)
    (denotes : Literal.Denotes literal value) (h : value < Int64.maxValue)
    (above : Literal.Denotes next (value + 1)) (records : List Record) :
    (leaf ⟨.greater, field, literal⟩).Alike (leaf ⟨.less, field, next⟩).not records := by
  have typed := wellTyped_leaf_number number denotes .greater
  have typed' : (leaf ⟨.less, field, next⟩).not.WellTyped :=
    wellTyped_leaf_number number above .less
  apply Alike.of_chosen
  · rw [misfit?_eq_none_iff.2 typed, misfit?_eq_none_iff.2 typed']
  · refine List.filter_congr fun row _ => decide_eq_decide.2 ?_
    obtain ⟨stored, get⟩ := row.1.get_of_number number
    change _ ↔ ¬ (leaf ⟨.less, field, next⟩).Satisfied row.1
    rw [satisfied_leaf_number denotes get, satisfied_leaf_number above get, toInt_add_one h]
    simp only [Comparison.Relates]
    omega

theorem select_leaf_eq_nil (number : field.kind = .number) (denotes : Literal.Denotes literal value)
    (none : ∀ stored : Int64, ¬ comparison.Relates stored.toInt value.toInt) (records : List Record) :
    (leaf ⟨comparison, field, literal⟩).select records = .ok [] := by
  rw [select_eq_chosen (wellTyped_leaf_number number denotes comparison),
    map_chosen_of_head_ne_or (by cases comparison <;> simp [head, Comparison.keyword]),
    List.filter_eq_nil_iff.2]
  intro record _
  obtain ⟨stored, get⟩ := record.get_of_number number
  rw [decide_eq_true_iff, satisfied_leaf_number denotes get]
  exact none stored

/-- What the comparisons of a field with a number select: every position by one of them, and at the
ends of the range nothing beyond. -/
structure Compares (field : Field) (literal : String) (value : Int64) (records : List Record) :
    Prop where
  shared : ∃ equal greater less,
    (leaf ⟨.equal, field, literal⟩).positions records = .ok equal ∧
      (leaf ⟨.greater, field, literal⟩).positions records = .ok greater ∧
      (leaf ⟨.less, field, literal⟩).positions records = .ok less ∧
      (equal ++ greater ++ less).Perm (List.range records.length)
  above : value < Int64.maxValue → ∀ next, Literal.Denotes next (value + 1) →
    (leaf ⟨.greater, field, literal⟩).Alike (leaf ⟨.less, field, next⟩).not records
  top : value = Int64.maxValue → (leaf ⟨.greater, field, literal⟩).select records = .ok []
  bottom : value = Int64.minValue → (leaf ⟨.less, field, literal⟩).select records = .ok []

theorem compares (number : field.kind = .number) (denotes : Literal.Denotes literal value)
    (records : List Record) : Compares field literal value records where
  shared := by
    have typed := wellTyped_leaf_number number denotes
    refine ⟨_, _, _, positions_eq_chosen (typed .equal) records,
      positions_eq_chosen (typed .greater) records, positions_eq_chosen (typed .less) records, ?_⟩
    rw [← List.map_append, ← List.map_append, ← map_zipIdx_positions]
    exact (chosen_comparisons_perm number denotes records.zipIdx).map _
  above h next above := greater_alike_not_less number denotes h above records
  top h := by
    refine select_leaf_eq_nil number denotes (fun stored => ?_) records
    have most := Int64.toInt_le stored
    simp only [Comparison.Relates, h]
    omega
  bottom h := by
    refine select_leaf_eq_nil number denotes (fun stored => ?_) records
    have least := Int64.minValue_le_toInt stored
    simp only [Comparison.Relates, h]
    omega

/-- A literal is accepted if it stands for a number in range, only this number matters to the
answer, and comparisons with it are those of the integers. -/
theorem numbers_compare_by_value :
    (∀ (query : Query) records, (∃ found, query.select records = .ok found) ↔
      ∀ condition ∈ query.conditions,
        (condition.field.kind = .text → condition.comparison = .equal) ∧
          (condition.field.kind = .number → ∃ n,
            Integer.Denotes (Text.trim condition.literal.toList) n ∧
              -9223372036854775808 ≤ n ∧ n ≤ 9223372036854775807)) ∧
    (∀ (query other : Query) records, query.Restates other → query.Alike other records) ∧
    (∀ value : Int64, Literal.Denotes (String.ofList (Integer.toText value.toInt)) value) ∧
    ∀ field literal value records, field.kind = .number → Literal.Denotes literal value →
      Compares field literal value records := by
  refine ⟨?_, ?_, ?_, ?_⟩
  · intro query records
    rw [exists_select_eq_ok_iff, WellTyped]
    simp only [Condition.wellTyped_iff]
  · intro query other records h
    exact Alike.of_selectRows (h.selectRows records.zipIdx)
  · intro value
    rw [Literal.Denotes, String.toList_ofList, Integer.trim_toText]
    exact Integer.denotes_toText value.toInt
  · intro field literal value records number denotes
    exact compares number denotes records

theorem numbers_compare_by_value_spelled :
    let query := (any [⟨.greater, .views, " +007 "⟩, ⟨.equal, .title, "a"⟩]).not
    let other := (any [⟨.greater, .views, "7"⟩, ⟨.equal, .title, "a"⟩]).not
    let records : List Record := [⟨"1", "a", "", 0, 0⟩, ⟨"2", "b", "", 7, 0⟩, ⟨"2", "b", "", 8, 0⟩]
    query.Restates other ∧ query.Alike other records ∧ Field.views.kind = .number ∧
      Literal.Denotes " +007 " 7 ∧ Compares .views " +007 " 7 records ∧
      (7 : Int64) < Int64.maxValue ∧ Literal.Denotes "8" (7 + 1) ∧
      (leaf ⟨.greater, .views, " +007 "⟩).Alike (leaf ⟨.less, .views, "8"⟩).not records ∧
      Literal.Denotes "9223372036854775807" Int64.maxValue ∧
      (leaf ⟨.greater, .views, "9223372036854775807"⟩).select records = .ok [] ∧
      Literal.Denotes "-9223372036854775808" Int64.minValue ∧
      (leaf ⟨.less, .views, "-9223372036854775808"⟩).select records = .ok [] := by
  intro query other records
  have seven : Literal.Denotes " +007 " 7 := Integer.ofText64?_eq_some_iff.1 (by rfl)
  have plain : Literal.Denotes "7" 7 := Integer.ofText64?_eq_some_iff.1 (by rfl)
  have eight : Literal.Denotes "8" (7 + 1) := Integer.ofText64?_eq_some_iff.1 (by rfl)
  have most : Literal.Denotes "9223372036854775807" Int64.maxValue :=
    Integer.ofText64?_eq_some_iff.1 (by rfl)
  have least : Literal.Denotes "-9223372036854775808" Int64.minValue :=
    Integer.ofText64?_eq_some_iff.1 (by rfl)
  have restated : query.Restates other := by
    refine .not (.any (.cons ?_ (.cons ?_ .nil)))
    · exact ⟨rfl, rfl, Or.inr ⟨rfl, 7, seven, plain⟩⟩
    · exact ⟨rfl, rfl, Or.inl rfl⟩
  obtain ⟨-, alike, -, compared⟩ := numbers_compare_by_value
  have sevens := compared .views " +007 " 7 records rfl seven
  exact ⟨restated, alike query other records restated, rfl, seven, sevens, by decide, eight,
    sevens.above (by decide) "8" eight, most,
    (compared .views _ _ records rfl most).top rfl, least,
    (compared .views _ _ records rfl least).bottom rfl⟩

end Query

end Quarry
