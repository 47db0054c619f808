import Quarry.Proofs.Agreement
import Quarry.Proofs.Answers
import Quarry.Proofs.Replay

/-! What a session answers when its records were written in another order. Ids tell records apart, so
the last write of each id settles which records there are, and which of them a query selects. Main
statement: histories that agree on these writes have the same answers, up to the order of records. -/

namespace Quarry

/-! The records of a store. -/

namespace Store

variable {store : Store} {record : Record} {history other : List Record}

theorem Unique.nodup (h : store.Unique) : store.records.Nodup :=
  List.Nodup.of_map _ h

theorem Unique.mem_records_iff (h : store.Unique) :
    record ∈ store.records ↔ store.get? record.id = some record := by
  refine ⟨?_, List.mem_of_find?_eq_some⟩
  intro mem
  have some : (store.get? record.id).isSome := by
    rw [get?, List.find?_isSome]
    exact ⟨record, mem, by simp⟩
  obtain ⟨found, eq⟩ := Option.isSome_iff_exists.1 some
  have same : found.id = record.id := by simpa using List.find?_some eq
  have mem' : found ∈ store.records := List.mem_of_find?_eq_some eq
  rw [eq, List.inj_on_of_nodup_map h mem' mem same]

theorem records_perm_of_lastWrite? (same : ∀ id, lastWrite? history id = lastWrite? other id) :
    (empty.insertAll history).records.Perm (empty.insertAll other).records := by
  have unique := unique_empty.insertAll history
  have unique' := unique_empty.insertAll other
  rw [List.perm_ext_iff_of_nodup unique.nodup unique'.nodup]
  intro record
  rw [unique.mem_records_iff, unique'.mem_records_iff, get?_insertAll_empty, get?_insertAll_empty,
    same]

end Store

/-! The records that a query selects. -/

namespace Query

variable {query : Query} {records others : List Record}

/-- The order of the records makes no difference to whether they are selected. -/
theorem select_perm (query : Query) (perm : records.Perm others) :
    (∃ reason, query.select records = .error reason ∧ query.select others = .error reason) ∨
      ∃ found found', query.select records = .ok found ∧ query.select others = .ok found' ∧
        found.Perm found' := by
  cases misfit : query.misfit? with
  | some condition =>
    exact Or.inl ⟨condition.mismatch, select_of_misfit misfit records, select_of_misfit misfit others⟩
  | none =>
    have typed := misfit?_eq_none_iff.1 misfit
    refine Or.inr ⟨_, _, select_eq_chosen typed records, select_eq_chosen typed others, ?_⟩
    have here := query.map_chosen_perm records
    have there := query.map_chosen_perm others
    exact here.trans ((perm.filter _).trans there.symm)

end Query

/-! Two sessions. -/

namespace Session

variable {first second : Session} {history other : List Record}

theorem after_upserts (pretty : Bool) (history : List Record) :
    (Session.empty pretty).after (history.map .upsert) =
      ⟨Store.empty.insertAll history, pretty⟩ := by
  have writes : (history.map Request.upsert).flatMap (·.writes) = history := by
    rw [List.flatMap_map]
    exact List.flatMap_singleton' history
  rw [after_eq, writes]
  rfl

theorem query_of_perm (perm : first.store.records.Perm second.store.records) (text : String) :
    (∃ reason, (first.query text).1 = .error reason ∧ (second.query text).1 = .error reason) ∨
      ∃ found found', (first.query text).1 = .ok found ∧ (second.query text).1 = .ok found' ∧
        found.Perm found' := by
  rw [query_fst, query_fst]
  cases read : Query.ofText text with
  | error reason => exact Or.inl ⟨reason, rfl, rfl⟩
  | ok query =>
    simp only [Except.bind, evaluate]
    rcases query.select_perm perm with ⟨reason, failed, failed'⟩ | ⟨found, found', ok, ok', perm⟩
    · rw [failed, failed']
      exact Or.inl ⟨.mismatch reason, rfl, rfl⟩
    · rw [ok, ok']
      exact Or.inr ⟨found, found', rfl, rfl, perm⟩

/-- Sessions in which the last write of each id is the same give the same answers, in whatever order
the records were written and whatever was written over. -/
theorem query_of_same_lastWrites (same : ∀ id, Store.lastWrite? history id = Store.lastWrite? other id)
    (pretty pretty' : Bool) (text : String) :
    let first := (Session.empty pretty).after (history.map .upsert)
    let second := (Session.empty pretty').after (other.map .upsert)
    (∃ reason, (first.query text).1 = .error reason ∧ (second.query text).1 = .error reason) ∨
      ∃ found found', (first.query text).1 = .ok found ∧ (second.query text).1 = .ok found' ∧
        found.Perm found' := by
  intro first second
  apply query_of_perm
  have left : first.store = Store.empty.insertAll history :=
    congrArg Session.store (after_upserts pretty history)
  have right : second.store = Store.empty.insertAll other :=
    congrArg Session.store (after_upserts pretty' other)
  rw [left, right]
  exact Store.records_perm_of_lastWrite? same

theorem query_of_same_lastWrites_swapped :
    let old : Record := ⟨"1", "a", "", 0, 0⟩
    let one : Record := ⟨"1", "b", "", 1, 0⟩
    let two : Record := ⟨"2", "b", "", 2, 0⟩
    let text := "OR(EQUAL(title,'b'),LESS_THAN(views,0))"
    let first := (Session.empty true).after ([old, two, one].map .upsert)
    let second := (Session.empty false).after ([one, two].map .upsert)
    (∀ id, Store.lastWrite? [old, two, one] id = Store.lastWrite? [one, two] id) ∧
      ((∃ reason, (first.query text).1 = .error reason ∧ (second.query text).1 = .error reason) ∨
        ∃ found found', (first.query text).1 = .ok found ∧ (second.query text).1 = .ok found' ∧
          found.Perm found') := by
  intro old one two text first second
  have same : ∀ id, Store.lastWrite? [old, two, one] id = Store.lastWrite? [one, two] id := by
    intro id
    by_cases one' : "1" = id
    · subst one'
      decide
    · by_cases two' : "2" = id
      · subst two'
        decide
      · simp [Store.lastWrite?, old, one, two, one', two']
  exact ⟨same, query_of_same_lastWrites same true false text⟩

end Session

end Quarry
