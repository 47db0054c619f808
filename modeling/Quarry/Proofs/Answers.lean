import Quarry.Proofs.Mismatch

/-! Answers as records and as positions. A query whose conditions fit their fields is answered, and
its records are the same however rows are numbered. Main statement: records may be left out before
a query is asked or from its answer. -/

namespace Quarry.Query

variable {query other : Query} {conditions : List Condition} {rows others : List Row}
  {records found : List Record}

theorem select_eq_chosen (typed : query.WellTyped) (records : List Record) :
    query.select records = .ok ((query.chosen records.zipIdx).map (·.1)) := by
  rw [select, selectRows_eq_chosen typed (numbered_zipIdx records)]
  rfl

theorem positions_eq_chosen (typed : query.WellTyped) (records : List Record) :
    query.positions records = .ok ((query.chosen records.zipIdx).map (·.2)) := by
  rw [positions, selectRows_eq_chosen typed (numbered_zipIdx records)]
  rfl

theorem exists_select_eq_error (h : ¬ query.WellTyped) (records : List Record) :
    ∃ reason, query.select records = .error reason := by
  cases misfit : query.misfit? with
  | none => exact absurd (misfit?_eq_none_iff.1 misfit) h
  | some condition => exact ⟨_, select_of_misfit misfit records⟩

theorem exists_select_eq_ok_iff :
    (∃ found, query.select records = .ok found) ↔ query.WellTyped := by
  refine ⟨?_, fun typed => ⟨_, select_eq_chosen typed records⟩⟩
  rintro ⟨found, ok⟩
  by_contra h
  obtain ⟨reason, failed⟩ := exists_select_eq_error h records
  rw [failed] at ok
  cases ok

theorem wellTyped_of_positions {positions : List Nat}
    (ok : query.positions records = .ok positions) : query.WellTyped := by
  cases misfit : query.misfit? with
  | none => exact misfit?_eq_none_iff.1 misfit
  | some condition =>
    rw [Query.positions, selectRows_of_misfit misfit] at ok
    cases ok

/-! Which records are selected. -/

theorem chosen_of_head_ne_or (h : query.head ≠ .or) (rows : List Row) :
    query.chosen rows = rows.filter fun row => query.Satisfied row.1 := by
  cases query with
  | any conditions => exact absurd rfl h
  | leaf condition => rfl
  | not query => rfl
  | all conditions => rfl

theorem map_filter (p : Record → Bool) (rows : List Row) :
    (rows.filter fun row => p row.1).map (·.1) = (rows.map (·.1)).filter p :=
  List.filter_map.symm

theorem map_filter_zipIdx (p : Record → Bool) (records : List Record) :
    (records.zipIdx.filter fun row => p row.1).map (·.1) = records.filter p := by
  rw [map_filter, List.zipIdx_map_fst]

theorem map_zipIdx_positions (records : List Record) :
    records.zipIdx.map (·.2) = List.range records.length := by
  rw [List.zipIdx_map_snd, List.range_eq_range']

/-- Positions aside, the selected records are those that satisfy the query. -/
theorem map_chosen_perm (query : Query) (records : List Record) :
    ((query.chosen records.zipIdx).map (·.1)).Perm
      (records.filter fun record => query.Satisfied record) := by
  rw [← map_filter_zipIdx fun record => query.Satisfied record]
  exact (query.chosen_perm records.zipIdx).map _

theorem map_chosen_of_head_ne_or (h : query.head ≠ .or) (records : List Record) :
    (query.chosen records.zipIdx).map (·.1) =
      records.filter fun record => query.Satisfied record := by
  rw [chosen_of_head_ne_or h, map_filter_zipIdx fun record => query.Satisfied record]

/-! Rows that are left out. -/

theorem union_filter (conditions : List Condition) (p : Row → Bool) (rows : List Row) :
    union conditions (rows.filter p) = (union conditions rows).filter p := by
  induction conditions generalizing rows with
  | nil => rfl
  | cons condition conditions ih =>
    rw [union, union, List.filter_append, ← ih, List.filter_comm _ p rows,
      List.filter_comm _ p rows]

theorem chosen_filter (query : Query) (p : Row → Bool) (rows : List Row) :
    query.chosen (rows.filter p) = (query.chosen rows).filter p := by
  cases query with
  | any conditions => exact union_filter conditions p rows
  | leaf _ | not _ | all _ => exact List.filter_comm _ p rows

theorem map_filter_congr (same : rows.map (·.1) = others.map (·.1)) (p : Record → Bool) :
    (rows.filter fun row => p row.1).map (·.1) = (others.filter fun row => p row.1).map (·.1) := by
  rw [map_filter, map_filter, same]

theorem map_union_congr (conditions : List Condition)
    (same : rows.map (·.1) = others.map (·.1)) :
    (union conditions rows).map (·.1) = (union conditions others).map (·.1) := by
  induction conditions generalizing rows others with
  | nil => rfl
  | cons condition conditions ih =>
    have holds := map_filter_congr same fun record => condition.Holds record
    have fails := map_filter_congr same fun record => ¬ condition.Holds record
    rw [union, union, List.map_append, List.map_append, holds, ih fails]

/-- Rows count for their records, whatever their numbers are. -/
theorem map_chosen_congr (query : Query) (same : rows.map (·.1) = others.map (·.1)) :
    (query.chosen rows).map (·.1) = (query.chosen others).map (·.1) := by
  have satisfied := map_filter_congr same fun record => query.Satisfied record
  cases query with
  | any conditions => exact map_union_congr conditions same
  | leaf _ | not _ | all _ => exact satisfied

/-- Records may as well be left out of the answer as out of the records that are queried. -/
theorem select_filter (ok : query.select records = .ok found) (p : Record → Bool) :
    query.select (records.filter p) = .ok (found.filter p) := by
  have typed := exists_select_eq_ok_iff.1 ⟨found, ok⟩
  have left : (records.filter p).zipIdx.map (·.1) =
      (records.zipIdx.filter fun row => p row.1).map (·.1) := by
    rw [List.zipIdx_map_fst, map_filter_zipIdx]
  rw [select_eq_chosen typed, Except.ok.injEq] at ok
  rw [select_eq_chosen typed, map_chosen_congr query left, chosen_filter, map_filter, ok]

/-- Queries that are answered by the same positions in the same order, or refused for the same
reason. -/
structure Alike (query other : Query) (records : List Record) : Prop where
  positions : query.positions records = other.positions records
  select : query.select records = other.select records

theorem Alike.of_selectRows
    (same : query.selectRows records.zipIdx = other.selectRows records.zipIdx) :
    query.Alike other records where
  positions := by rw [Query.positions, Query.positions, same]
  select := by rw [Query.select, Query.select, same]

theorem Alike.of_chosen (misfit : query.misfit? = other.misfit?)
    (chosen : query.chosen records.zipIdx = other.chosen records.zipIdx) :
    query.Alike other records := by
  apply of_selectRows
  cases refused : other.misfit? with
  | some condition =>
    rw [selectRows_of_misfit refused, selectRows_of_misfit (misfit.trans refused)]
  | none =>
    have typed := misfit?_eq_none_iff.1 refused
    have typed' := misfit?_eq_none_iff.1 (misfit.trans refused)
    have numbered := numbered_zipIdx records
    rw [selectRows_eq_chosen typed numbered, selectRows_eq_chosen typed' numbered, chosen]

end Quarry.Query
