import Mathlib.Data.Finset.Card
import Quarry.Store

/-! What a store makes of the records written to it. No two of its records share an id, so that a
write takes out every earlier one with its id. Main statement: a store that began empty holds the
last write of each id, in the order of these writes, whatever else was written in between. -/

namespace Quarry.Store

variable {store : Store} {record : Record} {history back : List Record}

def Unique (store : Store) : Prop :=
  (store.records.map (·.id)).Nodup

/-- The records of a history that no later one with the same id follows. -/
def lastWrites : List Record → List Record
  | [] => []
  | record :: later =>
    if ∃ other ∈ later, other.id = record.id then lastWrites later
    else record :: lastWrites later

def lastWrite? (history : List Record) (id : String) : Option Record :=
  (history.filter fun record => record.id = id).getLast?

theorem unique_empty : empty.Unique :=
  List.nodup_nil

/-- Where ids are unique, taking out the first record with an id takes out all of them. -/
theorem eraseP_eq_filter {records : List Record} (h : (records.map (·.id)).Nodup) (id : String) :
    (records.eraseP fun record => record.id = id) =
      records.filter fun record => record.id ≠ id := by
  induction records with
  | nil => rfl
  | cons record records ih =>
    rw [List.map_cons, List.nodup_cons] at h
    by_cases same : record.id = id
    · subst same
      have others : ∀ other ∈ records, other.id ≠ record.id := by
        intro other mem eq
        exact h.1 (List.mem_map.2 ⟨other, mem, eq⟩)
      rw [List.eraseP_cons_of_pos (by simp), List.filter_cons_of_neg (by simp)]
      exact (List.filter_eq_self.2 (by simpa using others)).symm
    · rw [List.eraseP_cons_of_neg (by simpa using same),
        List.filter_cons_of_pos (by simpa using same), ih h.2]

/-! One write. -/

theorem upsert_fst (store : Store) (record : Record) :
    (store.upsert record).1 = store.get? record.id :=
  extract_fst record.id store.records

theorem records_insert (h : store.Unique) (record : Record) : (store.insert record).records =
    (store.records.filter fun other => other.id ≠ record.id) ++ [record] := by
  rw [← eraseP_eq_filter h, ← extract_snd]
  rfl

theorem Unique.insert (h : store.Unique) (record : Record) : (store.insert record).Unique := by
  have kept : ((store.records.filter fun other => other.id ≠ record.id).map (·.id)).Nodup :=
    h.sublist (List.filter_sublist.map _)
  rw [Unique, records_insert h, List.map_append, List.nodup_append]
  refine ⟨kept, List.nodup_singleton _, ?_⟩
  intro id mem last isLast
  obtain ⟨other, mem', rfl⟩ := List.mem_map.1 mem
  obtain rfl := List.mem_singleton.1 isLast
  simpa using List.of_mem_filter mem'

theorem get?_insert (h : store.Unique) (record : Record) (id : String) :
    (store.insert record).get? id = if record.id = id then some record else store.get? id := by
  rw [get?, records_insert h, List.find?_append]
  split
  · next same =>
    have none : (store.records.filter fun other => other.id ≠ record.id).find?
        (fun other => other.id = id) = none := by
      rw [List.find?_eq_none]
      intro other mem
      simpa [same] using List.of_mem_filter mem
    rw [none]
    simp [same]
  · next differs =>
    have kept : (store.records.filter fun other => other.id ≠ record.id).find?
        (fun other => other.id = id) = store.get? id := by
      rw [List.find?_filter, get?]
      congr 1
      funext other
      rw [Bool.eq_iff_iff]
      simp only [decide_eq_true_iff]
      refine ⟨And.right, ?_⟩
      rintro rfl
      exact ⟨Ne.symm differs, rfl⟩
    rw [kept]
    simp [differs]

/-! A run of writes. -/

theorem Unique.insertAll (h : store.Unique) (history : List Record) :
    (store.insertAll history).Unique := by
  induction history generalizing store with
  | nil => exact h
  | cons record history ih => exact ih (h.insert record)

theorem lastWrites_cons_of_mem (h : ∃ later ∈ back, later.id = record.id) :
    lastWrites (record :: back) = lastWrites back :=
  if_pos h

theorem lastWrites_cons_of_notMem (h : ¬ ∃ later ∈ back, later.id = record.id) :
    lastWrites (record :: back) = record :: lastWrites back :=
  if_neg h

/-- A record from before stays in front as long as nothing with its id is written. -/
theorem records_insertAll (h : store.Unique) (history : List Record) :
    (store.insertAll history).records =
      (store.records.filter fun record => ¬ ∃ later ∈ history, later.id = record.id) ++
        lastWrites history := by
  induction history generalizing store with
  | nil => simp [lastWrites]
  | cons record history ih =>
    have earlier : ((store.records.filter fun other => other.id ≠ record.id).filter
          fun other => ¬ ∃ later ∈ history, later.id = other.id) =
        store.records.filter fun other => ¬ ∃ later ∈ record :: history, later.id = other.id := by
      rw [List.filter_filter]
      apply List.filter_congr
      intro other _
      rw [Bool.eq_iff_iff]
      simp only [Bool.and_eq_true, decide_eq_true_iff, List.exists_mem_cons_iff, not_or]
      rw [and_comm, ne_comm]
    rw [insertAll_cons, ih (h.insert record), records_insert h, List.filter_append, earlier,
      List.append_assoc]
    by_cases later : ∃ later ∈ history, later.id = record.id
    · rw [lastWrites_cons_of_mem later, List.filter_cons_of_neg (by simpa using later)]
      rfl
    · rw [lastWrites_cons_of_notMem later, List.filter_cons_of_pos (by simpa using later)]
      rfl

theorem records_insertAll_empty (history : List Record) :
    (empty.insertAll history).records = lastWrites history :=
  records_insertAll unique_empty history

/-! The last writes of a history. -/

theorem mem_ids_lastWrites {id : String} :
    id ∈ (lastWrites history).map (·.id) ↔ id ∈ history.map (·.id) := by
  induction history with
  | nil => rfl
  | cons record history ih =>
    by_cases later : ∃ later ∈ history, later.id = record.id
    · have mem : record.id ∈ history.map (·.id) := List.mem_map.2 later
      rw [lastWrites_cons_of_mem later, ih, List.map_cons, List.mem_cons]
      refine ⟨Or.inr, ?_⟩
      rintro (rfl | mem')
      · exact mem
      · exact mem'
    · rw [lastWrites_cons_of_notMem later, List.map_cons, List.map_cons, List.mem_cons,
        List.mem_cons, ih]

theorem lastWrites_sublist (history : List Record) : (lastWrites history).Sublist history := by
  induction history with
  | nil => exact List.Sublist.refl _
  | cons record history ih =>
    by_cases later : ∃ later ∈ history, later.id = record.id
    · rw [lastWrites_cons_of_mem later]
      exact ih.cons record
    · rw [lastWrites_cons_of_notMem later]
      exact ih.cons_cons record

theorem lastWrites_of_nodup (h : (history.map (·.id)).Nodup) : lastWrites history = history := by
  induction history with
  | nil => rfl
  | cons record history ih =>
    rw [List.map_cons, List.nodup_cons] at h
    have last : ¬ ∃ later ∈ history, later.id = record.id := fun later =>
      h.1 (List.mem_map.2 later)
    rw [lastWrites_cons_of_notMem last, ih h.2]

/-- A write goes unnoticed once its id is written again. -/
theorem lastWrites_erase (front : List Record) (h : ∃ later ∈ back, later.id = record.id) :
    lastWrites (front ++ record :: back) = lastWrites (front ++ back) := by
  induction front with
  | nil => exact lastWrites_cons_of_mem h
  | cons first front ih =>
    have again : (∃ later ∈ front ++ record :: back, later.id = first.id) ↔
        ∃ later ∈ front ++ back, later.id = first.id := by
      refine ⟨?_, ?_⟩
      · rintro ⟨later, mem, same⟩
        rcases List.mem_append.1 mem with mem | mem
        · exact ⟨later, List.mem_append_left _ mem, same⟩
        · rcases List.mem_cons.1 mem with rfl | mem
          · obtain ⟨other, mem', same'⟩ := h
            exact ⟨other, List.mem_append_right _ mem', same'.trans same⟩
          · exact ⟨later, List.mem_append_right _ mem, same⟩
      · rintro ⟨later, mem, same⟩
        have sub : (front ++ back).Sublist (front ++ record :: back) :=
          (List.sublist_cons_self record back).append_left front
        exact ⟨later, sub.mem mem, same⟩
    simp only [List.cons_append, lastWrites, again, ih]

/-! What is found under an id. -/

theorem lastWrite?_append (history : List Record) (record : Record) (id : String) :
    lastWrite? (history ++ [record]) id =
      if record.id = id then some record else lastWrite? history id := by
  rw [lastWrite?, List.filter_append]
  split
  · next same => simp [same]
  · next other => simp [other, lastWrite?]

theorem get?_insertAll_empty (history : List Record) (id : String) :
    (empty.insertAll history).get? id = lastWrite? history id := by
  induction history using List.reverseRecOn with
  | nil => rfl
  | append_singleton history record ih =>
    have unique := unique_empty.insertAll history
    rw [insertAll_append, insertAll_cons, insertAll_nil, get?_insert unique, ih, lastWrite?_append]

theorem size_insertAll_empty (history : List Record) :
    (empty.insertAll history).size = (history.map (·.id)).toFinset.card := by
  have unique := unique_empty.insertAll history
  have same : ((empty.insertAll history).records.map (·.id)).toFinset =
      (history.map (·.id)).toFinset := by
    ext id
    rw [List.mem_toFinset, List.mem_toFinset, records_insertAll_empty, mem_ids_lastWrites]
  rw [← same, List.toFinset_card_of_nodup unique, List.length_map, size]

theorem isEmpty_insertAll_empty (history : List Record) :
    (empty.insertAll history).isEmpty = true ↔ history = [] := by
  have none : (empty.insertAll history).records.map (·.id) = [] ↔ history.map (·.id) = [] := by
    simp only [List.eq_nil_iff_forall_not_mem, records_insertAll_empty, mem_ids_lastWrites]
  rw [isEmpty, List.isEmpty_iff]
  simpa using none

/-- The last write of each id, in the order of these writes. -/
structure Reflects (store : Store) (history : List Record) : Prop where
  unique : store.Unique
  records : store.records = lastWrites history
  sublist : store.records.Sublist history
  size : store.size = (history.map (·.id)).toFinset.card
  isEmpty : store.isEmpty = true ↔ history = []
  get? : ∀ id, store.get? id = lastWrite? history id

/-- A store that began empty holds what was last written, hands back at each write what it held
under the id, and does not tell whether a record that was written over has ever been there. -/
theorem reflects_insertAll_empty (history : List Record) :
    (empty.insertAll history).Reflects history ∧
      ∀ front record back, history = front ++ record :: back →
        ((empty.insertAll front).upsert record).1 = (empty.insertAll front).get? record.id ∧
          ((∃ later ∈ back, later.id = record.id) →
            empty.insertAll (front ++ back) = empty.insertAll history) := by
  refine ⟨?_, ?_⟩
  · exact {
      unique := unique_empty.insertAll history
      records := records_insertAll_empty history
      sublist := by
        rw [records_insertAll_empty]
        exact lastWrites_sublist history
      size := size_insertAll_empty history
      isEmpty := isEmpty_insertAll_empty history
      get? := get?_insertAll_empty history }
  · rintro front record back rfl
    refine ⟨upsert_fst _ record, ?_⟩
    intro again
    have same : (empty.insertAll (front ++ back)).records =
        (empty.insertAll (front ++ record :: back)).records := by
      rw [records_insertAll_empty, records_insertAll_empty, lastWrites_erase front again]
    exact congrArg Store.mk same

theorem reflects_insertAll_empty_again :
    let first : Record := ⟨"1", "a", "", 0, 0⟩
    let other : Record := ⟨"2", "b", "", 0, 0⟩
    let last : Record := ⟨"1", "c", "", 0, 0⟩
    let history := [first, other, last]
    (empty.insertAll history).Reflects history ∧
      ((empty.insertAll [first, other]).upsert last).1 = some first ∧
      (∃ later ∈ [other, last], later.id = first.id) ∧
      empty.insertAll [other, last] = empty.insertAll history := by
  intro first other last history
  have again : ∃ later ∈ [other, last], later.id = first.id := by decide
  obtain ⟨reflects, each⟩ := reflects_insertAll_empty history
  exact ⟨reflects, (each [first, other] last [] rfl).1, again,
    (each [] first [other, last] rfl).2 again⟩

end Quarry.Store
