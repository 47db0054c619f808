import Mathlib.Data.List.Sort
import Mathlib.Logic.Function.Iterate
import Quarry.Proofs.Answers

/-! What NOT selects. It goes through the rows in their order and keeps those that the query leaves,
so that two NOTs undo each other but for the order that OR gives. Main statement: a query and its
negation share out the positions between them, and of three NOTs two can be left out. -/

namespace Quarry.Query

variable {query : Query} {records : List Record}

theorem misfit?_not (query : Query) : query.not.misfit? = query.misfit? := rfl

theorem chosen_append_not_perm (query : Query) (rows : List Row) :
    (query.chosen rows ++ query.not.chosen rows).Perm rows := by
  have others : query.not.chosen rows = rows.filter fun row => !decide (query.Satisfied row.1) :=
    List.filter_congr fun _ _ => decide_not
  have parts := List.filter_append_perm (fun row : Row => decide (query.Satisfied row.1)) rows
  rw [others]
  exact ((query.chosen_perm rows).append_right _).trans parts

theorem chosen_not_not (query : Query) (rows : List Row) :
    query.not.not.chosen rows = rows.filter fun row => query.Satisfied row.1 :=
  List.filter_congr fun _ _ => decide_eq_decide.2 not_not

/-- Positions that ascend are those that sorting gives. -/
theorem positions_not_not {positions : List Nat} (ok : query.positions records = .ok positions) :
    query.not.not.positions records = .ok (positions.mergeSort (· ≤ ·)) := by
  have typed := wellTyped_of_positions ok
  have typed' : query.not.not.WellTyped := typed
  rw [positions_eq_chosen typed, Except.ok.injEq] at ok
  rw [positions_eq_chosen typed', Except.ok.injEq, chosen_not_not, ← ok]
  have numbered := (numbered_zipIdx records).filter fun row => query.Satisfied row.1
  have ascending : ((records.zipIdx.filter fun row => query.Satisfied row.1).map (·.2)).Pairwise
      (· ≤ ·) :=
    List.pairwise_map.2 (numbered.imp Nat.le_of_lt)
  -- both lists ascend and hold the same positions
  have same := ((query.chosen_perm records.zipIdx).map (·.2)).symm
  exact List.Perm.eq_of_pairwise' ascending (List.pairwise_mergeSort' (· ≤ ·) _)
    (same.trans (List.mergeSort_perm _ _).symm)

/-- Two NOTs undo each other where the order of the records is kept. -/
theorem not_not_alike (h : query.head ≠ .or) (records : List Record) :
    query.not.not.Alike query records := by
  refine Alike.of_chosen rfl ?_
  rw [chosen_not_not, chosen_of_head_ne_or h]

theorem iterate_not_alike {k : Nat} (h : 0 < k) (query : Query) (records : List Record) :
    (Query.not^[k + 2] query).Alike (Query.not^[k] query) records := by
  obtain ⟨k, rfl⟩ := Nat.exists_eq_succ_of_ne_zero (Nat.ne_of_gt h)
  rw [Function.iterate_succ_apply', Function.iterate_succ_apply']
  apply not_not_alike
  rw [Function.iterate_succ_apply']
  simp [head]

/-- A query and its negation fail together, or select every position between them; two NOTs give
the positions in the order of the records, and three do what one does. -/
theorem not_selects_complement (query : Query) (records : List Record) :
    (∀ reason, query.not.select records = .error reason ↔ query.select records = .error reason) ∧
      (∀ positions, query.positions records = .ok positions →
        (∃ others, query.not.positions records = .ok others ∧
          (positions ++ others).Perm (List.range records.length)) ∧
        query.not.not.positions records = .ok (positions.mergeSort (· ≤ ·))) ∧
      (query.head ≠ .or → query.not.not.Alike query records) ∧
      ∀ k, 0 < k → (Query.not^[k + 2] query).Alike (Query.not^[k] query) records := by
  refine ⟨?_, ?_, fun h => not_not_alike h records, fun k h => iterate_not_alike h query records⟩
  · intro reason
    rw [select_eq_error_iff_misfit, select_eq_error_iff_misfit, misfit?_not]
  · intro positions ok
    refine ⟨?_, positions_not_not ok⟩
    have typed := wellTyped_of_positions ok
    have typed' : query.not.WellTyped := typed
    refine ⟨_, positions_eq_chosen typed' records, ?_⟩
    rw [positions_eq_chosen typed, Except.ok.injEq] at ok
    rw [← ok, ← List.map_append, ← map_zipIdx_positions]
    exact (query.chosen_append_not_perm records.zipIdx).map _

theorem not_selects_complement_any :
    let query := any [⟨.greater, .views, "3"⟩, ⟨.equal, .title, "a"⟩]
    let records : List Record :=
      [⟨"1", "a", "", 0, 0⟩, ⟨"2", "b", "", 0, 0⟩, ⟨"1", "a", "", 0, 0⟩, ⟨"3", "b", "", 5, 0⟩]
    query.positions records = .ok [3, 0, 2] ∧
      (∃ others, query.not.positions records = .ok others ∧
        ([3, 0, 2] ++ others).Perm (List.range records.length)) ∧
      query.not.not.positions records = .ok ([3, 0, 2].mergeSort (· ≤ ·)) ∧
      query.not.head ≠ .or ∧ query.not.not.not.Alike query.not records ∧
      0 < 1 ∧ (Query.not^[1 + 2] query).Alike (Query.not^[1] query) records := by
  intro query records
  have ok : query.positions records = .ok [3, 0, 2] := by rfl
  have head : query.not.head ≠ .or := by decide
  obtain ⟨-, shared, -, nested⟩ := not_selects_complement query records
  obtain ⟨others, sorted⟩ := shared [3, 0, 2] ok
  exact ⟨ok, others, sorted, head, (not_selects_complement query.not records).2.2.1 head,
    Nat.one_pos, nested 1 Nat.one_pos⟩

example : (any [⟨.equal, .title, "b"⟩, ⟨.equal, .title, "a"⟩]).not.not.positions
    [⟨"1", "a", "", 0, 0⟩, ⟨"1", "b", "", 0, 0⟩, ⟨"1", "b", "", 0, 0⟩] = .ok [0, 1, 2] := by
  rfl

end Quarry.Query
