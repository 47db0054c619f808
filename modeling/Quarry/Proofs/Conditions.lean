import Quarry.Proofs.Answers

/-! What AND and OR make of a list of conditions. AND may go on with what a first part of the list
has left, and OR adds to what a first part has found. Main statement: the answer to a list is put
together from the answers to its parts, and apart from the order under OR it depends only on which
conditions there are. -/

namespace Quarry.Query

variable {query : Query} {first second : List Condition} {rows : List Row} {row : Row}
  {records : List Record} {record : Record}

/-! A list in two parts. -/

theorem satisfied_all_append : (all (first ++ second)).Satisfied record ↔
    (all first).Satisfied record ∧ (all second).Satisfied record :=
  List.forall_mem_append

theorem select_all (typed : (all first).WellTyped) (records : List Record) :
    (all first).select records =
      .ok (records.filter fun record => (all first).Satisfied record) := by
  rw [select_eq_chosen typed, map_chosen_of_head_ne_or (by simp [head])]

theorem select_all_append (typed : (all first).WellTyped) (typed' : (all second).WellTyped)
    (records : List Record) : ∃ kept found, (all first).select records = .ok kept ∧
      (all second).select kept = .ok found ∧
      (all (first ++ second)).select records = .ok found := by
  have whole : (all (first ++ second)).WellTyped := List.forall_mem_append.2 ⟨typed, typed'⟩
  refine ⟨_, _, select_all typed records, select_all typed' _, ?_⟩
  rw [select_all whole, List.filter_filter]
  refine congrArg _ (List.filter_congr fun record _ => ?_)
  rw [Bool.eq_iff_iff, Bool.and_eq_true, decide_eq_true_iff, decide_eq_true_iff,
    decide_eq_true_iff, satisfied_all_append, and_comm]

theorem union_append (first second : List Condition) (rows : List Row) :
    union (first ++ second) rows =
      union first rows ++ (union second rows).filter fun row => ¬ (any first).Satisfied row.1 := by
  induction first generalizing rows with
  | nil => simp [union, Satisfied]
  | cons condition first ih =>
    rw [List.cons_append, union, ih, union, List.append_assoc, union_filter second,
      List.filter_filter]
    -- the second list goes without what the first condition and those after it have found
    congr 2
    apply List.filter_congr
    intro row _
    rw [Bool.eq_iff_iff]
    simp only [Bool.and_eq_true, decide_eq_true_iff, satisfied_any_cons, not_or]
    exact and_comm

theorem position_mem_iff (numbered : Numbered rows) (mem : row ∈ rows) :
    row.2 ∈ (query.chosen rows).map (·.2) ↔ query.Satisfied row.1 := by
  rw [List.mem_map]
  refine ⟨?_, fun satisfied => ⟨row, mem_chosen_iff.2 ⟨mem, satisfied⟩, rfl⟩⟩
  rintro ⟨other, chosen, same⟩
  obtain ⟨mem', satisfied⟩ := mem_chosen_iff.1 chosen
  rwa [← numbered.eq_of_position mem' mem same]

theorem positions_any_append (typed : (any first).WellTyped) (typed' : (any second).WellTyped)
    (records : List Record) : ∃ found more, (any first).positions records = .ok found ∧
      (any second).positions records = .ok more ∧
      (any (first ++ second)).positions records = .ok (found ++ more.filter (· ∉ found)) := by
  have whole : (any (first ++ second)).WellTyped := List.forall_mem_append.2 ⟨typed, typed'⟩
  refine ⟨_, _, positions_eq_chosen typed records, positions_eq_chosen typed' records, ?_⟩
  have joined : (any (first ++ second)).chosen records.zipIdx = (any first).chosen records.zipIdx ++
      ((any second).chosen records.zipIdx).filter fun row => ¬ (any first).Satisfied row.1 :=
    union_append first second records.zipIdx
  rw [positions_eq_chosen whole, joined, List.map_append, List.filter_map]
  congr 3
  apply List.filter_congr
  intro row mem
  have mem' := (mem_chosen_iff.1 mem).1
  rw [Function.comp_apply, decide_eq_decide, position_mem_iff (numbered_zipIdx records) mem']

/-! Lists with the same conditions. -/

theorem alike_all (same : ∀ condition, condition ∈ first ↔ condition ∈ second)
    (typed : (all first).WellTyped) (typed' : (all second).WellTyped) (records : List Record) :
    (all first).Alike (all second) records := by
  have satisfied : ∀ record, (all first).Satisfied record ↔ (all second).Satisfied record := by
    intro record
    simp only [Satisfied, same]
  apply Alike.of_chosen
  · rw [misfit?_eq_none_iff.2 typed, misfit?_eq_none_iff.2 typed']
  · exact List.filter_congr fun row _ => decide_eq_decide.2 (satisfied row.1)

theorem chosen_any_perm (same : ∀ condition, condition ∈ first ↔ condition ∈ second)
    (rows : List Row) : ((any first).chosen rows).Perm ((any second).chosen rows) := by
  have satisfied : ∀ record, (any first).Satisfied record ↔ (any second).Satisfied record := by
    intro record
    simp only [Satisfied, same]
  have filtered : (rows.filter fun row => (any first).Satisfied row.1) =
      rows.filter fun row => (any second).Satisfied row.1 :=
    List.filter_congr fun row _ => decide_eq_decide.2 (satisfied row.1)
  have here := (any first).chosen_perm rows
  rw [filtered] at here
  exact here.trans ((any second).chosen_perm rows).symm

theorem all_of_same (same : ∀ condition, condition ∈ first ↔ condition ∈ second)
    (records : List Record) :
    ((∃ reason, (all first).select records = .error reason) ∧
        ∃ reason, (all second).select records = .error reason) ∨
      (∃ found, (all first).select records = .ok found) ∧
        (all first).Alike (all second) records := by
  have both : (all first).WellTyped ↔ (all second).WellTyped := by
    simp only [WellTyped, conditions, same]
  by_cases typed : (all first).WellTyped
  · exact Or.inr ⟨⟨_, select_all typed records⟩, alike_all same typed (both.1 typed) records⟩
  · exact Or.inl ⟨exists_select_eq_error typed records,
      exists_select_eq_error (mt both.2 typed) records⟩

theorem any_of_same (same : ∀ condition, condition ∈ first ↔ condition ∈ second)
    (records : List Record) :
    ((∃ reason, (any first).select records = .error reason) ∧
        ∃ reason, (any second).select records = .error reason) ∨
      ∃ positions others, (any first).positions records = .ok positions ∧
        (any second).positions records = .ok others ∧ positions.Perm others := by
  have both : (any first).WellTyped ↔ (any second).WellTyped := by
    simp only [WellTyped, conditions, same]
  by_cases typed : (any first).WellTyped
  · exact Or.inr ⟨_, _, positions_eq_chosen typed records, positions_eq_chosen (both.1 typed) records,
      (chosen_any_perm same records.zipIdx).map _⟩
  · exact Or.inl ⟨exists_select_eq_error typed records,
      exists_select_eq_error (mt both.2 typed) records⟩

/-- The parts of a list are answered one after the other, and neither the order of conditions nor
their repetition makes a difference but to the order of the records under OR. -/
theorem answers_of_conditions (first second : List Condition) (records : List Record) :
    ((∀ condition ∈ first ++ second, condition.WellTyped) →
      (∃ kept found, (all first).select records = .ok kept ∧ (all second).select kept = .ok found ∧
        (all (first ++ second)).select records = .ok found) ∧
      ∃ found more, (any first).positions records = .ok found ∧
        (any second).positions records = .ok more ∧
        (any (first ++ second)).positions records = .ok (found ++ more.filter (· ∉ found))) ∧
    ((∀ condition, condition ∈ first ↔ condition ∈ second) →
      (((∃ reason, (all first).select records = .error reason) ∧
          ∃ reason, (all second).select records = .error reason) ∨
        (∃ found, (all first).select records = .ok found) ∧
          (all first).Alike (all second) records) ∧
      (((∃ reason, (any first).select records = .error reason) ∧
          ∃ reason, (any second).select records = .error reason) ∨
        ∃ positions others, (any first).positions records = .ok positions ∧
          (any second).positions records = .ok others ∧ positions.Perm others)) := by
  refine ⟨?_, ?_⟩
  · intro typed
    obtain ⟨typed, typed'⟩ := List.forall_mem_append.1 typed
    exact ⟨select_all_append typed typed' records, positions_any_append typed typed' records⟩
  · intro same
    exact ⟨all_of_same same records, any_of_same same records⟩

theorem answers_of_conditions_repeated :
    let more : Condition := ⟨.greater, .views, "3"⟩
    let titled : Condition := ⟨.equal, .title, "a"⟩
    let first := [more, titled]
    let second := [titled, more, titled]
    let records : List Record :=
      [⟨"1", "a", "", 0, 0⟩, ⟨"2", "b", "", 4, 0⟩, ⟨"1", "a", "", 0, 0⟩, ⟨"3", "a", "", 5, 0⟩]
    (∀ condition ∈ first ++ second, condition.WellTyped) ∧
      ((∃ kept found, (all first).select records = .ok kept ∧
          (all second).select kept = .ok found ∧
          (all (first ++ second)).select records = .ok found) ∧
        ∃ found more, (any first).positions records = .ok found ∧
          (any second).positions records = .ok more ∧
          (any (first ++ second)).positions records = .ok (found ++ more.filter (· ∉ found))) ∧
      (∀ condition, condition ∈ first ↔ condition ∈ second) ∧
      (((∃ reason, (all first).select records = .error reason) ∧
          ∃ reason, (all second).select records = .error reason) ∨
        (∃ found, (all first).select records = .ok found) ∧
          (all first).Alike (all second) records) ∧
      (((∃ reason, (any first).select records = .error reason) ∧
          ∃ reason, (any second).select records = .error reason) ∨
        ∃ positions others, (any first).positions records = .ok positions ∧
          (any second).positions records = .ok others ∧ positions.Perm others) := by
  intro more titled first second records
  have typed : ∀ condition ∈ first ++ second, condition.WellTyped := by decide
  have same : ∀ condition, condition ∈ first ↔ condition ∈ second := by
    intro condition
    simp only [first, second, List.mem_cons, List.not_mem_nil, or_false]
    tauto
  obtain ⟨parts, reordered⟩ := answers_of_conditions first second records
  exact ⟨typed, parts typed, same, reordered same⟩

end Quarry.Query
