import Mathlib.Data.List.Forall2
import Quarry.Proofs.JsonValue

/-! The text of a list, and how it is read, whatever its items stand for. Main statement: a list is read as
its items are, in their order. -/

namespace Quarry.Json

variable {α : Type} {item : Reader α} {entry : Entry} {entries : List Entry}
  {means : List Char → α → Prop} {values seen : List α} {before after space text rest left : List Char}
  {c : Char} {first : Bool}

/-- Blanks around a value that does not end the list. -/
structure Entry.Spaced (entry : Entry) : Prop where
  lead : Spaces entry.lead
  value : ∃ c more, entry.value = c :: more ∧ isSpace c = false ∧ c ≠ ']'
  after : Spaces entry.after

/-- A value is read as what it means, and what follows it is left. -/
def ReadsItem (item : Reader α) (means : List Char → α → Prop) (value : List Char) : Prop :=
  ∀ ⦃found : α⦄ ⦃rest left : List Char⦄, NumberText.Ended rest →
    (item.run (value ++ rest) = .ok (found, left) ↔ means value found ∧ left = rest)

/-! One step of reading. -/

theorem Entry.Spaced.nextElement_first (h : entry.Spaced) (rest : List Char) :
    nextElement true (entry.letters ++ rest) = .ok (.item (entry.value ++ (entry.after ++ rest))) := by
  obtain ⟨c, more, value, visible, open'⟩ := h.value
  simp only [Entry.letters, value, List.append_assoc, List.cons_append]
  unfold nextElement
  rw [skipSpace_append h.lead visible]
  split <;> simp_all

theorem Entry.Spaced.nextElement_comma (h : entry.Spaced) (spaces : Spaces before) (rest : List Char) :
    nextElement false (before ++ ',' :: (entry.letters ++ rest)) =
      .ok (.item (entry.value ++ (entry.after ++ rest))) := by
  obtain ⟨c, more, value, visible, open'⟩ := h.value
  simp only [Entry.letters, value, List.append_assoc, List.cons_append]
  unfold nextElement
  rw [skipSpace_append spaces (by decide)]
  simp [skipSpace_append h.lead visible, open']

/-- Behind a value, no number can go on. -/
theorem Entry.Spaced.ended (h : entry.Spaced) (spaces : Spaces space) (entries : List Entry)
    (rest : List Char) : NumberText.Ended (entry.after ++
      ((entries.map Entry.letters).flatMap (',' :: ·) ++ (space ++ ']' :: rest))) :=
  ended_spaces h.after (ended_pieces .list spaces (entries.map Entry.letters) rest)

theorem nextElement_finish (spaces : Spaces space) (first : Bool) (rest : List Char) :
    nextElement first (space ++ ']' :: rest) = .ok (.finish rest) := by
  rw [nextElement, skipSpace_append spaces (by decide : isSpace ']' = false)]
  rfl

theorem readItems_finish (finish : nextElement first text = .ok (.finish rest)) :
    Reader.readItems item seen first text = .ok (seen.reverse, rest) := by
  rw [Reader.readItems]
  split <;> simp_all

theorem readItems_item (next : nextElement first text = .ok (.item rest)) :
    Reader.readItems item seen first text = (do
      let (value, rest) ← item.run rest
      Reader.readItems item (value :: seen) false rest) := by
  rw [Reader.readItems]
  split
  next eq => simp_all
  next eq => simp_all
  next eq =>
    rw [next] at eq
    cases eq
    split
    next eq => rw [eq, error_bind]
    next eq => rw [eq, ok_bind]

theorem readItems_item_iff {value : List Char} (next : nextElement first text = .ok (.item (value ++ rest)))
    (reads : ReadsItem item means value) (ended : NumberText.Ended rest) :
    Reader.readItems item seen first text = .ok (values, left) ↔
      ∃ found, means value found ∧
        Reader.readItems item (found :: seen) false rest = .ok (values, left) := by
  rw [readItems_item next]
  simp only [bind_eq_ok_iff, Prod.exists]
  constructor
  · rintro ⟨found, left', run, more⟩
    obtain ⟨meant, rfl⟩ := (reads ended).1 run
    exact ⟨found, meant, more⟩
  · rintro ⟨found, meant, more⟩
    exact ⟨found, rest, (reads ended).2 ⟨meant, rfl⟩, more⟩

/-! All items. -/

/-- After one item, the others are read with the commas in front of them. -/
theorem readItems_eq_ok_iff (spaced : ∀ entry ∈ entries, entry.Spaced)
    (reads : ∀ entry ∈ entries, ReadsItem item means entry.value) (spaces : Spaces space)
    (spaces' : Spaces after) :
    Reader.readItems item seen false (after ++ ((entries.map Entry.letters).flatMap (',' :: ·) ++
        (space ++ ']' :: rest))) = .ok (values, left) ↔
      (∃ found, List.Forall₂ (fun entry value => means entry.value value) entries found ∧
        values = seen.reverse ++ found) ∧ left = rest := by
  induction entries generalizing seen after with
  | nil =>
    have both : Spaces (after ++ space) := List.forall_mem_append.2 ⟨spaces', spaces⟩
    rw [List.map_nil, List.flatMap_nil, List.nil_append, ← List.append_assoc,
      readItems_finish (nextElement_finish both false rest)]
    simp [eq_comm]
  | cons entry entries ih =>
    rw [List.forall_mem_cons] at spaced reads
    have ended := spaced.1.ended spaces entries rest
    rw [List.map_cons, List.flatMap_cons, List.append_assoc, List.cons_append,
      readItems_item_iff (spaced.1.nextElement_comma spaces' _) reads.1 ended]
    simp only [ih spaced.2 reads.2 spaced.1.after, List.forall₂_cons_left_iff]
    constructor
    · rintro ⟨first, meant, ⟨found, more, rfl⟩, rfl⟩
      exact ⟨⟨first :: found, ⟨first, found, meant, more, rfl⟩, by simp⟩, rfl⟩
    · rintro ⟨⟨_, ⟨first, found, meant, more, rfl⟩, rfl⟩, rfl⟩
      exact ⟨first, meant, ⟨found, more, by simp⟩, rfl⟩

theorem run_list_eq_ok_iff (spaced : ∀ entry ∈ entries, entry.Spaced)
    (reads : ∀ entry ∈ entries, ReadsItem item means entry.value) (spaces : Spaces space) :
    (Reader.list item).run ('[' :: ([','].intercalate (entries.map Entry.letters) ++
        (space ++ ']' :: rest))) = .ok (values, left) ↔
      List.Forall₂ (fun entry value => means entry.value value) entries values ∧ left = rest := by
  have start : ∀ text, (Reader.list item).run ('[' :: text) = Reader.readItems item [] true text :=
    fun _ => rfl
  rw [start]
  cases entries with
  | nil =>
    rw [List.map_nil, List.intercalate_nil, List.nil_append,
      readItems_finish (nextElement_finish spaces true rest)]
    simp [eq_comm]
  | cons entry entries =>
    rw [List.forall_mem_cons] at spaced reads
    have ended := spaced.1.ended spaces entries rest
    rw [List.map_cons, intercalate_cons, List.append_assoc,
      readItems_item_iff (spaced.1.nextElement_first _) reads.1 ended]
    simp only [readItems_eq_ok_iff spaced.2 reads.2 spaces spaced.1.after, List.forall₂_cons_left_iff]
    constructor
    · rintro ⟨first, meant, ⟨found, more, rfl⟩, rfl⟩
      exact ⟨⟨first, found, meant, more, rfl⟩, rfl⟩
    · rintro ⟨⟨first, found, meant, more, rfl⟩, rfl⟩
      exact ⟨first, meant, ⟨found, more, rfl⟩, rfl⟩

/-! The text of a list among values. -/

/-- The text of a list of the given values, with any blanks around its items. -/
inductive ListText (means : List Char → α → Prop) : List Char → List α → Prop where
  | parts {entries : List Entry} {space : List Char} {values : List α}
      (leads : ∀ entry ∈ entries, Spaces entry.lead) (afters : ∀ entry ∈ entries, Spaces entry.after)
      (items : List.Forall₂ (fun entry value => means entry.value value) entries values)
      (spaces : Spaces space) :
      ListText means ('[' :: ([','].intercalate (entries.map Entry.letters) ++ (space ++ [']']))) values

theorem Entry.spaced {entry : Entry} (lead : Spaces entry.lead) (value : IsValue entry.value)
    (after : Spaces entry.after) : entry.Spaced := by
  obtain ⟨c, starts⟩ := value.exists_startsWith
  obtain ⟨more, eq⟩ := starts.cons
  exact ⟨lead, ⟨c, more, eq, starts.visible, starts.open'⟩, after⟩

theorem IsValue.exists_entries {more : List Char} (h : IsValue ('[' :: more)) :
    ∃ (entries : List Entry) (space : List Char), (∀ entry ∈ entries, entry.Spaced) ∧
      (∀ entry ∈ entries, IsValue entry.value) ∧ Spaces space ∧
        more = [','].intercalate (entries.map Entry.letters) ++ (space ++ [']']) := by
  generalize eq : '[' :: more = value at h
  cases h with
  | word h =>
    simp only [List.mem_cons, List.not_mem_nil, or_false] at h
    rcases h with rfl | rfl | rfl <;> cases eq
  | number h =>
    obtain ⟨c, more, rfl, starts⟩ := h.exists_eq_cons
    exact absurd (List.cons.inj eq).1.symm (ne_of_starts starts (by decide) rfl)
  | text h => cases eq
  | @nested frame entries space leads values afters spaces =>
    cases frame with
    | list =>
      refine ⟨entries, space, ?_, values, spaces, (List.cons.inj eq).2⟩
      intro entry mem
      cases leads entry mem with
      | item lead => exact Entry.spaced lead (values entry mem) (afters entry mem)
    | object => cases eq

theorem run_list_of_ne {c : Char} {more : List Char} (visible : isSpace c = false) (other : c ≠ '[') :
    (Reader.list item).run (c :: more) = .error (wrongType "a sequence" (c :: more)) := by
  simp only [Reader.list, Reader.readListValue, skipSpace_cons visible]
  split
  next eq => exact absurd (List.cons.inj eq).1 other
  next => rfl

theorem isValue_of_items (isValue : ∀ ⦃value found⦄, means value found → IsValue value)
    (items : List.Forall₂ (fun (entry : Entry) value => means entry.value value) entries values) :
    ∀ entry ∈ entries, IsValue entry.value :=
  ((List.forall₂_and_left _ _).1 (items.imp fun _ _ meant => ⟨isValue meant, meant⟩)).1

theorem ListText.isValue {value : List Char}
    (isValue : ∀ ⦃value found⦄, means value found → IsValue value) (h : ListText means value values) :
    IsValue value := by
  obtain ⟨leads, afters, items, spaces⟩ := h
  have value' := IsValue.nested (fun entry mem => Frame.Lead.item (leads entry mem))
    (isValue_of_items isValue items) afters spaces
  exact value'

/-- A value is read as a list exactly if it is the text of one. -/
theorem run_listText_eq_ok_iff {value : List Char}
    (isValue : ∀ ⦃value found⦄, means value found → IsValue value)
    (reads : ∀ ⦃value⦄, IsValue value → ReadsItem item means value) (h : IsValue value)
    (spaces : Spaces before) :
    (Reader.list item).run (before ++ (value ++ rest)) = .ok (values, left) ↔
      ListText means value values ∧ left = rest := by
  have start : (Reader.list item).run (before ++ (value ++ rest)) =
      (Reader.list item).run (value ++ rest) := by
    simp only [Reader.list, Reader.readListValue, skipSpace_spaces spaces]
  rw [start]
  constructor
  · intro run
    obtain ⟨c, starts⟩ := h.exists_startsWith
    obtain ⟨more, rfl⟩ := starts.cons
    by_cases list : c = '['
    · subst list
      obtain ⟨entries, space, spaced, values', spaces', rfl⟩ := h.exists_entries
      simp only [List.cons_append, List.append_assoc, List.nil_append] at run
      obtain ⟨items, rfl⟩ :=
        (run_list_eq_ok_iff spaced (fun entry mem => reads (values' entry mem)) spaces').1 run
      exact ⟨.parts (fun entry mem => (spaced entry mem).lead)
        (fun entry mem => (spaced entry mem).after) items spaces', rfl⟩
    · rw [List.cons_append, run_list_of_ne starts.visible list] at run
      cases run
  · rintro ⟨⟨leads, afters, items, spaces'⟩, rfl⟩
    have values' := isValue_of_items isValue items
    have spaced : ∀ entry ∈ _, Entry.Spaced entry :=
      fun entry mem => Entry.spaced (leads entry mem) (values' entry mem) (afters entry mem)
    simp only [List.cons_append, List.append_assoc, List.nil_append]
    exact (run_list_eq_ok_iff spaced (fun entry mem => reads (values' entry mem)) spaces').2 ⟨items, rfl⟩

end Quarry.Json
