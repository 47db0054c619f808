import Mathlib.Data.List.Perm.Basic
import Mathlib.Data.List.Nodup
import Quarry.Proofs.Meaning

/-! What a query selects. Its conditions are gone through one after another, and rows are told apart
by position. Main statement: every position whose record satisfies the query is selected once, in
the order of the records, but under OR by the first condition that holds. -/

namespace Quarry.Query

variable {query : Query} {condition : Condition} {conditions : List Condition} {rows : List Row}
  {row other : Row}

/-- Every condition contributes the rows that none before it does. -/
def union : List Condition → List Row → List Row
  | [], _ => []
  | condition :: conditions, rows =>
    (rows.filter fun row => condition.Holds row.1) ++
      union conditions (rows.filter fun row => ¬ condition.Holds row.1)

/-- The rows that satisfy a query, in the order of the result. -/
def chosen (query : Query) (rows : List Row) : List Row :=
  match query with
  | .any conditions => union conditions rows
  | .leaf _ | .not _ | .all _ => rows.filter fun row => query.Satisfied row.1

/-- The index of the first condition that holds. -/
def firstMatch (conditions : List Condition) (record : Record) : Nat :=
  conditions.findIdx fun condition => condition.Holds record

/-- Positions ascend. -/
def Numbered (rows : List Row) : Prop :=
  rows.Pairwise fun row other => row.2 < other.2

theorem numbered_zipIdx (records : List Record) : Numbered records.zipIdx := by
  have ascending : (records.zipIdx.map (·.2)).Pairwise (· < ·) := by
    rw [List.zipIdx_map_snd]
    exact List.pairwise_lt_range'
  exact List.pairwise_map.1 ascending

theorem Numbered.filter (h : Numbered rows) (p : Row → Bool) : Numbered (rows.filter p) :=
  List.Pairwise.filter p h

theorem Numbered.nodup (h : Numbered rows) : (rows.map (·.2)).Nodup :=
  List.pairwise_map.2 (h.imp fun lt => Nat.ne_of_lt lt)

theorem Numbered.eq_of_position (h : Numbered rows) (mem : row ∈ rows) (mem' : other ∈ rows)
    (same : row.2 = other.2) : row = other :=
  List.inj_on_of_nodup_map h.nodup mem mem' same

theorem satisfied_all_cons {record : Record} : (all (condition :: conditions)).Satisfied record ↔
    condition.Holds record ∧ (all conditions).Satisfied record :=
  List.forall_mem_cons

theorem satisfied_any_cons {record : Record} : (any (condition :: conditions)).Satisfied record ↔
    condition.Holds record ∨ (any conditions).Satisfied record :=
  List.exists_mem_cons_iff ..

theorem union_perm (conditions : List Condition) (rows : List Row) :
    (union conditions rows).Perm (rows.filter fun row => (any conditions).Satisfied row.1) := by
  induction conditions generalizing rows with
  | nil => simp [union, Satisfied]
  | cons condition conditions ih =>
    have split := List.filter_append_perm (fun row : Row => condition.Holds row.1)
      (rows.filter fun row => (any (condition :: conditions)).Satisfied row.1)
    refine List.Perm.trans ?_ split
    have first : ∀ row ∈ rows, (decide (condition.Holds row.1) &&
        decide ((any (condition :: conditions)).Satisfied row.1)) =
          decide (condition.Holds row.1) := by
      intro row _
      rw [Bool.eq_iff_iff]
      simp only [Bool.and_eq_true, decide_eq_true_eq, satisfied_any_cons]
      exact ⟨And.left, fun holds => ⟨holds, Or.inl holds⟩⟩
    have others : ∀ row ∈ rows, ((!decide (condition.Holds row.1)) &&
        decide ((any (condition :: conditions)).Satisfied row.1)) =
          (decide ((any conditions).Satisfied row.1) && !decide (condition.Holds row.1)) := by
      intro row _
      rw [Bool.eq_iff_iff]
      simp only [Bool.and_eq_true, Bool.not_eq_true', decide_eq_true_eq, decide_eq_false_iff_not,
        satisfied_any_cons]
      exact ⟨fun h => ⟨h.2.resolve_left h.1, h.1⟩, fun h => ⟨h.2, Or.inr h.1⟩⟩
    rw [List.filter_filter, List.filter_filter, List.filter_congr first, List.filter_congr others,
      ← List.filter_filter, union]
    simp only [decide_not]
    exact (ih _).append_left _

theorem chosen_perm (query : Query) (rows : List Row) :
    (query.chosen rows).Perm (rows.filter fun row => query.Satisfied row.1) := by
  cases query with
  | any conditions => exact union_perm conditions rows
  | leaf condition => exact List.Perm.refl _
  | not query => exact List.Perm.refl _
  | all conditions => exact List.Perm.refl _

theorem mem_chosen_iff : row ∈ query.chosen rows ↔ row ∈ rows ∧ query.Satisfied row.1 := by
  rw [(query.chosen_perm rows).mem_iff, List.mem_filter, decide_eq_true_iff]

theorem contains_eq_decide (h : Numbered rows) {found : List Row} (sub : found ⊆ rows)
    (mem : row ∈ rows) : contains found row = decide (row ∈ found) := by
  rw [contains, Bool.eq_iff_iff, List.any_eq_true, decide_eq_true_iff]
  refine ⟨?_, ?_⟩
  · rintro ⟨other, mem', same⟩
    rwa [h.eq_of_position mem (sub mem') (by simpa using Eq.symm (eq_of_beq same))]
  · intro mem'
    exact ⟨row, mem', by simp⟩

theorem contains_filter (h : Numbered rows) (p : Row → Bool) (mem : row ∈ rows) :
    contains (rows.filter p) row = p row := by
  rw [contains_eq_decide h (List.filter_subset_self rows) mem, Bool.eq_iff_iff,
    decide_eq_true_iff, List.mem_filter]
  simp [mem]

theorem contains_append (found more : List Row) (row : Row) :
    contains (found ++ more) row = (contains found row || contains more row) :=
  List.any_append

theorem narrow_of_wellTyped (typed : condition.WellTyped) (kept : List Row) :
    narrow kept condition = .ok (kept.filter fun row => condition.Holds row.1) := by
  rw [narrow, Condition.test_of_wellTyped typed]
  rfl

theorem widen_of_wellTyped (typed : condition.WellTyped) (rows found : List Row) :
    widen rows found condition =
      .ok (found ++ rows.filter fun row => condition.Holds row.1 && !contains found row) := by
  rw [widen, Condition.test_of_wellTyped typed]
  rfl

theorem foldlM_narrow (typed : ∀ condition ∈ conditions, condition.WellTyped) (kept : List Row) :
    conditions.foldlM narrow kept =
      .ok (kept.filter fun row => (all conditions).Satisfied row.1) := by
  induction conditions generalizing kept with
  | nil => simp [Satisfied, pure, Except.pure]
  | cons condition conditions ih =>
    rw [List.forall_mem_cons] at typed
    rw [List.foldlM_cons, narrow_of_wellTyped typed.1]
    change conditions.foldlM narrow _ = _
    rw [ih typed.2, List.filter_filter]
    refine congrArg _ (List.filter_congr fun row _ => ?_)
    rw [Bool.eq_iff_iff, Bool.and_eq_true, decide_eq_true_iff, decide_eq_true_iff,
      decide_eq_true_iff, satisfied_all_cons, and_comm]

theorem foldlM_widen (typed : ∀ condition ∈ conditions, condition.WellTyped) (h : Numbered rows)
    (found : List Row) : conditions.foldlM (widen rows) found =
      .ok (found ++ union conditions (rows.filter fun row => !contains found row)) := by
  induction conditions generalizing found with
  | nil => simp [union, pure, Except.pure]
  | cons condition conditions ih =>
    rw [List.forall_mem_cons] at typed
    rw [List.foldlM_cons, widen_of_wellTyped typed.1]
    change conditions.foldlM (widen rows) _ = _
    rw [ih typed.2, union, List.append_assoc, List.filter_filter, List.filter_filter]
    have later : ∀ row ∈ rows, (!contains (found ++ rows.filter fun row =>
        condition.Holds row.1 && !contains found row) row) =
          (!condition.Holds row.1 && !contains found row) := by
      intro row mem
      rw [contains_append, contains_filter h _ mem]
      cases contains found row <;> simp
    rw [List.filter_congr later]
    simp

/-- Whatever way the rows are gone through, the result is what the query says of each. -/
theorem selectRows_eq_chosen (typed : query.WellTyped) (h : Numbered rows) :
    query.selectRows rows = .ok (query.chosen rows) := by
  induction query with
  | leaf condition => exact narrow_of_wellTyped (typed condition (List.mem_singleton_self _)) rows
  | not query ih =>
    have others : ∀ row ∈ rows,
        (!contains (query.chosen rows) row) = decide ((Query.not query).Satisfied row.1) := by
      intro row mem
      rw [contains_eq_decide h (fun _ chosen => (mem_chosen_iff.1 chosen).1) mem]
      rw [Bool.eq_iff_iff, Bool.not_eq_true', decide_eq_false_iff_not, decide_eq_true_iff,
        mem_chosen_iff, and_iff_right mem]
      rfl
    rw [selectRows, ih typed]
    change Except.ok (rows.filter _) = Except.ok (rows.filter _)
    rw [List.filter_congr others]
  | all conditions => exact foldlM_narrow typed rows
  | any conditions =>
    have found := foldlM_widen typed h []
    rw [List.nil_append, List.filter_eq_self.2 (by simp [contains])] at found
    exact found

/-! The order of the result. -/

theorem firstMatch_cons_of_holds {record : Record} (holds : condition.Holds record) :
    firstMatch (condition :: conditions) record = 0 := by
  simp [firstMatch, List.findIdx_cons, holds]

theorem firstMatch_cons_of_not_holds {record : Record} (holds : ¬ condition.Holds record) :
    firstMatch (condition :: conditions) record = firstMatch conditions record + 1 := by
  simp [firstMatch, List.findIdx_cons, holds]

theorem pairwise_union (h : Numbered rows) : (union conditions rows).Pairwise fun row other =>
    firstMatch conditions row.1 < firstMatch conditions other.1 ∨
      firstMatch conditions row.1 = firstMatch conditions other.1 ∧ row.2 < other.2 := by
  induction conditions generalizing rows with
  | nil => exact List.Pairwise.nil
  | cons condition conditions ih =>
    have holds : ∀ row ∈ rows.filter fun row => condition.Holds row.1, condition.Holds row.1 := by
      intro row mem
      simpa using List.of_mem_filter mem
    have fails : ∀ row ∈ union conditions (rows.filter fun row => ¬ condition.Holds row.1),
        ¬ condition.Holds row.1 := by
      intro row mem
      have inRest := List.mem_of_mem_filter ((union_perm conditions _).mem_iff.1 mem)
      simpa using List.of_mem_filter inRest
    rw [union, List.pairwise_append]
    refine ⟨?_, ?_, ?_⟩
    · refine (h.filter _).imp_of_mem fun mem mem' lt => ?_
      rw [firstMatch_cons_of_holds (holds _ mem), firstMatch_cons_of_holds (holds _ mem')]
      exact Or.inr ⟨rfl, lt⟩
    · refine (ih (h.filter _)).imp_of_mem fun mem mem' order => ?_
      rw [firstMatch_cons_of_not_holds (fails _ mem), firstMatch_cons_of_not_holds (fails _ mem')]
      omega
    · intro row mem other mem'
      rw [firstMatch_cons_of_holds (holds _ mem), firstMatch_cons_of_not_holds (fails _ mem')]
      exact Or.inl (Nat.succ_pos _)

/-- What a query is answered with: positions, and the records that stand there. -/
structure Answer (query : Query) (records : List Record) (positions : List Nat)
    (found : List Record) : Prop where
  once : ∀ i, positions.count i =
    if ∃ record ∈ records[i]?, query.Satisfied record then 1 else 0
  found : found.map some = positions.map (records[·]?)
  order : match query with
    | .any conditions => positions.Pairwise fun i j =>
      ∀ record ∈ records[i]?, ∀ other ∈ records[j]?,
        firstMatch conditions record < firstMatch conditions other ∨
          firstMatch conditions record = firstMatch conditions other ∧ i < j
    | .leaf _ | .not _ | .all _ => positions.Pairwise (· < ·)

theorem nodup_chosen (h : Numbered rows) (query : Query) :
    ((query.chosen rows).map (·.2)).Nodup := by
  rw [((query.chosen_perm rows).map _).nodup_iff]
  exact (h.filter _).nodup

theorem mem_positions_iff {records : List Record} {i : Nat} :
    i ∈ (query.chosen records.zipIdx).map (·.2) ↔
      ∃ record ∈ records[i]?, query.Satisfied record := by
  simp only [List.mem_map, mem_chosen_iff, List.mem_zipIdx_iff_getElem?]
  refine ⟨?_, ?_⟩
  · rintro ⟨row, ⟨get, satisfied⟩, rfl⟩
    exact ⟨row.1, get, satisfied⟩
  · rintro ⟨record, get, satisfied⟩
    exact ⟨(record, i), ⟨get, satisfied⟩, rfl⟩

theorem getElem?_of_mem_chosen (query : Query) {records : List Record}
    (mem : row ∈ query.chosen records.zipIdx) : records[row.2]? = some row.1 :=
  List.mem_zipIdx_iff_getElem?.1 (mem_chosen_iff.1 mem).1

theorem answer_chosen (query : Query) (records : List Record) :
    query.Answer records ((query.chosen records.zipIdx).map (·.2))
      ((query.chosen records.zipIdx).map (·.1)) where
  once i := by
    rw [(nodup_chosen (numbered_zipIdx records) query).count]
    simp only [mem_positions_iff]
  found := by
    rw [List.map_map, List.map_map, List.map_inj_left]
    intro row mem
    exact (query.getElem?_of_mem_chosen mem).symm
  order := by
    have numbered := numbered_zipIdx records
    cases query with
    | any conditions =>
      refine List.pairwise_map.2 ((pairwise_union numbered).imp_of_mem ?_)
      intro row next mem mem' order record get other get'
      have here := (any conditions).getElem?_of_mem_chosen mem
      have there := (any conditions).getElem?_of_mem_chosen mem'
      obtain rfl := Option.some.inj (here.symm.trans get)
      obtain rfl := Option.some.inj (there.symm.trans get')
      exact order
    | leaf condition => exact List.pairwise_map.2 (numbered.filter _)
    | not query => exact List.pairwise_map.2 (numbered.filter _)
    | all conditions => exact List.pairwise_map.2 (numbered.filter _)

/-- A query whose conditions fit their fields is answered by the records that satisfy it. -/
theorem select_of_wellTyped (typed : query.WellTyped) (records : List Record) :
    ∃ positions found, query.positions records = .ok positions ∧
      query.select records = .ok found ∧ query.Answer records positions found := by
  have rows := selectRows_eq_chosen typed (numbered_zipIdx records)
  refine ⟨_, _, ?_, ?_, query.answer_chosen records⟩
  · rw [positions, rows]
    rfl
  · rw [select, rows]
    rfl

theorem select_of_wellTyped_any :
    let query := any [⟨.greater, .views, " +1"⟩, ⟨.equal, .title, "a"⟩]
    let records := [⟨"1", "a", "", 0, 0⟩, ⟨"1", "a", "", 0, 0⟩, ⟨"2", "b", "", 5, 0⟩]
    query.WellTyped ∧ ∃ positions found, query.positions records = .ok positions ∧
      query.select records = .ok found ∧ query.Answer records positions found := by
  intro query records
  have typed : query.WellTyped := by decide
  exact ⟨typed, select_of_wellTyped typed records⟩

example : (any [⟨.greater, .views, " +1"⟩, ⟨.equal, .title, "a"⟩]).positions
    [⟨"1", "a", "", 0, 0⟩, ⟨"1", "a", "", 0, 0⟩, ⟨"2", "b", "", 5, 0⟩] = .ok [2, 0, 1] := by
  rfl

end Quarry.Query
