import Quarry.Proofs.Answers
import Quarry.Proofs.History

/-! What one more write changes in the answer to a query. Records that are left out of a store are
left out of its answers, and records that are added come in addition. Main statement: after a write
the record with this id is gone from the answer, the new one is there if it satisfies the query, and
the others stay in their order. -/

namespace Quarry

/-- A write leaves the records with other ids as they are. -/
theorem Store.filter_records_insert {store : Store} (h : store.Unique) (record : Record) :
    ((store.insert record).records.filter fun other => other.id ≠ record.id) =
      store.records.filter fun other => other.id ≠ record.id := by
  rw [records_insert h, List.filter_append, List.filter_filter]
  simp

namespace Query

variable {query : Query} {records more found added : List Record}

theorem select_append (ok : query.select records = .ok found) (ok' : query.select more = .ok added) :
    ∃ whole, query.select (records ++ more) = .ok whole ∧ whole.Perm (found ++ added) ∧
      (query.head ≠ .or → whole = found ++ added) := by
  have typed := exists_select_eq_ok_iff.1 ⟨found, ok⟩
  rw [select_eq_chosen typed, Except.ok.injEq] at ok ok'
  subst ok ok'
  refine ⟨_, select_eq_chosen typed _, ?_, ?_⟩
  · have parts := (query.map_chosen_perm records).append (query.map_chosen_perm more)
    rw [← List.filter_append] at parts
    exact (query.map_chosen_perm (records ++ more)).trans parts.symm
  · intro h
    simp only [map_chosen_of_head_ne_or h, List.filter_append]

theorem select_singleton (typed : query.WellTyped) (record : Record) :
    query.select [record] = .ok (if query.Satisfied record then [record] else []) := by
  have perm := query.map_chosen_perm [record]
  rw [select_eq_chosen typed]
  split
  · next satisfied =>
    rw [List.filter_singleton, decide_eq_true satisfied] at perm
    rw [List.perm_singleton.1 perm]
  · next satisfied =>
    rw [List.filter_singleton, decide_eq_false satisfied] at perm
    rw [List.perm_nil.1 perm]

/-- A write takes the record with its id out of the answer and adds the new one if that is selected
on its own, at the end but under OR. -/
theorem select_insert {history : List Record} {old : List Record}
    (ok : query.select (Store.empty.insertAll history).records = .ok old) (record : Record) :
    let kept := old.filter fun other => other.id ≠ record.id
    ∃ alone found, query.select [record] = .ok alone ∧
      query.select ((Store.empty.insertAll history).insert record).records = .ok found ∧
      let new := if alone = [] then kept else kept ++ [record]
      found.Perm new ∧ (query.head ≠ .or → found = new) ∧
        (query.head = .or → kept.Sublist found) := by
  intro kept
  have unique := Store.unique_empty.insertAll history
  have typed := exists_select_eq_ok_iff.1 ⟨old, ok⟩
  have others : query.select ((Store.empty.insertAll history).records.filter
      fun other => other.id ≠ record.id) = .ok kept :=
    select_filter ok _
  have single := select_singleton typed record
  obtain ⟨found, whole, perm, eq⟩ := select_append others single
  have new : (kept ++ if query.Satisfied record then [record] else []) =
      if (if query.Satisfied record then [record] else []) = [] then kept
      else kept ++ [record] := by
    split <;> simp
  rw [new] at perm eq
  rw [← Store.records_insert unique] at whole
  refine ⟨_, found, single, whole, perm, eq, fun _ => ?_⟩
  -- without the new record, the answer is the one to the records with other ids
  have rest : query.select ((Store.empty.insertAll history).records.filter
      fun other => other.id ≠ record.id) = .ok (found.filter fun other => other.id ≠ record.id) := by
    rw [← Store.filter_records_insert unique]
    exact select_filter whole _
  rw [others, Except.ok.injEq] at rest
  rw [rest]
  exact List.filter_sublist

theorem select_insert_any :
    let history : List Record := [⟨"1", "a", "", 0, 0⟩, ⟨"2", "b", "", 9, 0⟩, ⟨"3", "a", "", 9, 0⟩]
    let query := any [⟨.greater, .views, "5"⟩, ⟨.equal, .title, "a"⟩]
    let old : List Record := [⟨"2", "b", "", 9, 0⟩, ⟨"3", "a", "", 9, 0⟩, ⟨"1", "a", "", 0, 0⟩]
    let record : Record := ⟨"2", "b", "", 7, 0⟩
    let kept := old.filter fun other => other.id ≠ record.id
    query.select (Store.empty.insertAll history).records = .ok old ∧
      ∃ alone found, query.select [record] = .ok alone ∧
        query.select ((Store.empty.insertAll history).insert record).records = .ok found ∧
        let new := if alone = [] then kept else kept ++ [record]
        found.Perm new ∧ (query.head ≠ .or → found = new) ∧
          (query.head = .or → kept.Sublist found) := by
  intro history query old record kept
  have ok : query.select (Store.empty.insertAll history).records = .ok old := by rfl
  exact ⟨ok, select_insert ok record⟩

end Query

end Quarry
