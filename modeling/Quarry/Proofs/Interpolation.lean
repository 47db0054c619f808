import Quarry.Proofs.Agreement
import Quarry.Proofs.Ambiguity
import Quarry.Proofs.Answers
import Quarry.Proofs.History

/-! Any text between the quotes of an equality. Nothing in it is escaped, so that it may end its clause
early or add a value to it. Main statement: the query stands for equality with the whole text, or it is
refused as malformed, and a text that neither holds a comma nor is unbalanced is never refused. -/

namespace Quarry

open Quarry.Group

variable {text inner rest : List Char} {e : QueryError}

/-! Most of what can go wrong in reading is that a clause is malformed. -/

def QueryError.IsMalformed (e : QueryError) : Prop :=
  ∃ reason, e = .malformed reason

theorem Group.isMalformed_of_split (h : split text = .error e) : e.IsMalformed := by
  unfold split at h
  split at h
  · split at h
    · cases h
    · cases h
      exact ⟨_, rfl⟩
  · cases h
    exact ⟨_, rfl⟩

theorem Group.isMalformed_of_pair (h : pair inner = .error e) : e.IsMalformed := by
  unfold pair at h
  split at h
  · cases h
    exact ⟨_, rfl⟩
  · split at h
    · cases h
      exact ⟨_, rfl⟩
    · cases h

theorem Group.isMalformed_of_unquote (h : unquote text = .error e) : e.IsMalformed := by
  unfold unquote at h
  split at h
  · cases h
  · cases h
    exact ⟨_, rfl⟩

theorem Field.isMalformed_of_read (h : Field.read text = .error e) : e.IsMalformed := by
  unfold Field.read at h
  split at h
  · cases h
  · cases h
    exact ⟨_, rfl⟩

theorem Query.isMalformed_of_expectEnd (h : expectEnd rest = .error e) : e.IsMalformed := by
  unfold expectEnd at h
  split at h
  · cases h
  · cases h
    exact ⟨_, rfl⟩

/-- Equality fits every field, so that only a literal without quotes is refused. -/
theorem Condition.isMalformed_of_ofParts_equal {field : Field}
    (h : Condition.ofParts .equal field text = .error e) : e.IsMalformed := by
  unfold Condition.ofParts at h
  split at h
  · cases h
  · exact Group.isMalformed_of_unquote (map_eq_error_iff.1 h)

theorem Condition.isMalformed_of_readAfter_equal
    (h : Condition.readAfter .equal text = .error e) : e.IsMalformed := by
  simp only [Condition.readAfter, bind_eq_error_iff] at h
  rcases h with cut | ⟨_, -, pair | ⟨_, -, field | ⟨_, -, made | ⟨_, -, done⟩⟩⟩⟩
  · exact Group.isMalformed_of_split cut
  · exact Group.isMalformed_of_pair pair
  · exact Field.isMalformed_of_read field
  · exact Condition.isMalformed_of_ofParts_equal made
  · cases done

namespace Query

theorem isMalformed_of_readLeaf_equal (h : readLeaf .equal text = .error e) : e.IsMalformed := by
  simp only [readLeaf, bind_eq_error_iff] at h
  rcases h with failed | ⟨_, -, done⟩
  · exact Condition.isMalformed_of_readAfter_equal failed
  · cases done

/-- Whatever stands in the group, a query that starts with EQUAL has no other kind of error. -/
theorem isMalformed_of_ofText_equal {raw : String}
    (start : Text.trim raw.toList = Keyword.equal.text.toList ++ rest)
    (h : ofText raw = .error e) : e.IsMalformed := by
  have read : Keyword.read (Text.trim raw.toList) = .ok (Comparison.equal.keyword, rest) :=
    Keyword.read_eq_ok_iff.2 start
  simp only [ofText, Query.read, bind_eq_error_iff] at h
  rcases h with tree | ⟨_, -, more | ⟨_, -, done⟩⟩
  · rw [readTree_comparison read] at tree
    exact isMalformed_of_readLeaf_equal tree
  · exact isMalformed_of_expectEnd more
  · cases done

/-! The clause with a text between its quotes. -/

variable {field : Field}

theorem text_equal (kind : field.kind = .text) (value : String) :
    (leaf ⟨.equal, field, value⟩).text = "EQUAL(" ++ field.name ++ ",'" ++ value ++ "')" := by
  apply String.toList_inj.1
  simp [Query.text, letters_leaf, Condition.letters, kind, Comparison.text, Comparison.keyword,
    Keyword.text]

theorem ofText_equal_of_plain {value : String}
    (plain : (⟨.equal, field, value⟩ : Condition).Plain) :
    ofText (leaf ⟨.equal, field, value⟩).text = .ok (leaf ⟨.equal, field, value⟩) := by
  refine ofText_text_eq_ok_iff_derives.2 ⟨Nat.zero_le _, derives_letters_iff.2 ?_⟩
  intro condition mem
  obtain rfl := List.mem_singleton.1 mem
  exact Condition.printable_iff.2 ⟨fun _ => rfl, plain⟩

/-- A text that breaks out of its clause is noticed: read to the end, the clause is the one that was
meant. -/
theorem isMalformed_ofText_equal {value : String}
    (h : ¬ (⟨.equal, field, value⟩ : Condition).Plain) :
    ∃ reason, ofText (leaf ⟨.equal, field, value⟩).text = .error (.malformed reason) := by
  cases result : ofText (leaf ⟨.equal, field, value⟩).text with
  | ok read =>
    obtain ⟨-, derives⟩ := ofText_text_eq_ok_iff_derives.1 result
    obtain rfl := eq_of_derives_letters (List.forall_mem_nil _) derives
    have printable := derives_letters_iff.1 derives _ (List.mem_singleton_self _)
    exact absurd (Condition.printable_iff.1 printable).2 h
  | error e =>
    obtain ⟨after, starts⟩ : ∃ after,
        (leaf ⟨.equal, field, value⟩).letters = Keyword.equal.text.toList ++ after :=
      ⟨_, (Condition.letters_eq _).trans (List.append_assoc _ _ _)⟩
    have start : Text.trim (leaf ⟨.equal, field, value⟩).text.toList =
        Keyword.equal.text.toList ++ after := by
      rw [Query.text, String.toList_ofList, trim_letters, starts]
    obtain ⟨reason, rfl⟩ := isMalformed_of_ofText_equal start result
    exact ⟨reason, rfl⟩

/-- Equality of a text field selects the records with this text, in their order. -/
theorem select_equal (kind : field.kind = .text) (value : String) (records : List Record) :
    (leaf ⟨.equal, field, value⟩).select records =
      .ok (records.filter fun record => record.get field = .text value) := by
  have typed : (leaf ⟨.equal, field, value⟩).WellTyped := by
    intro condition mem
    obtain rfl := List.mem_singleton.1 mem
    exact ⟨fun _ => rfl, fun number => by simp [kind] at number⟩
  have holds : ∀ record : Record,
      (leaf ⟨.equal, field, value⟩).Satisfied record ↔ record.get field = .text value := by
    intro record
    obtain ⟨found, get⟩ := record.get_of_text kind
    rw [Satisfied, Condition.holds_of_text get, get, FieldValue.text.injEq]
  rw [select_eq_chosen typed, map_chosen_of_head_ne_or (by simp [head, Comparison.keyword])]
  simp only [holds]

end Query

theorem Store.filter_id_eq {store : Store} (h : store.Unique) (id : String) :
    (store.records.filter fun record => record.id = id) = (store.get? id).toList := by
  obtain ⟨records⟩ := store
  rw [get?]
  induction records with
  | nil => rfl
  | cons record records ih =>
    rw [Unique, List.map_cons, List.nodup_cons] at h
    by_cases same : record.id = id
    · have others : records.filter (fun record => record.id = id) = [] := by
        rw [List.filter_eq_nil_iff]
        intro other mem eq
        exact h.1 (List.mem_map.2 ⟨other, mem, (of_decide_eq_true eq).trans same.symm⟩)
      rw [List.filter_cons_of_pos (by simpa using same), others,
        List.find?_cons_of_pos (by simpa using same)]
      rfl
    · rw [List.filter_cons_of_neg (by simpa using same), ih h.2,
        List.find?_cons_of_neg (by simpa using same)]

namespace Session

/-- Between the quotes of an equality, a text is compared as a whole, or it makes the query malformed.
Among records with different ids, an id selects at most one. -/
theorem query_equal_of_text (session : Session) {field : Field} (kind : field.kind = .text)
    (value : String) :
    let result := (session.query ("EQUAL(" ++ field.name ++ ",'" ++ value ++ "')")).1
    let plain := ',' ∉ value.toList ∧ Balanced value.toList
    (plain → result = .ok (session.store.records.filter fun record =>
        record.get field = .text value)) ∧
      (¬ plain → ∃ reason, result = .error (.malformed reason)) ∧
      (plain → field = .id → session.store.Unique →
        result = .ok (session.store.get? value).toList) := by
  intro result plain
  have asked : result = (Query.ofText (Query.leaf ⟨.equal, field, value⟩).text).bind
      session.evaluate := by
    rw [Query.text_equal kind, ← query_fst]
  have found : plain → result = .ok (session.store.records.filter fun record =>
      record.get field = .text value) := by
    rintro ⟨comma, balanced⟩
    rw [asked, Query.ofText_equal_of_plain ⟨comma, balanced⟩]
    change session.evaluate _ = _
    rw [evaluate, Query.select_equal kind]
    rfl
  refine ⟨found, ?_, ?_⟩
  · intro broken
    have broken' : ¬ (⟨.equal, field, value⟩ : Condition).Plain :=
      fun h => broken ⟨h.comma, h.balanced⟩
    obtain ⟨reason, refused⟩ := Query.isMalformed_ofText_equal broken'
    exact ⟨reason, by rw [asked, refused]; rfl⟩
  · rintro isPlain rfl unique
    rw [found isPlain, ← Store.filter_id_eq unique]
    simp only [Record.get, FieldValue.text.injEq]

/-- The text holds a quote and parentheses, and it ends with a blank. -/
theorem query_equal_of_text_quote :
    let session : Session := ⟨⟨[⟨"1", "a", "", 0, 0⟩, ⟨"it's (1) ", "b", "", 7, 0⟩]⟩, true⟩
    Field.id.kind = .text ∧ ',' ∉ "it's (1) ".toList ∧ Balanced "it's (1) ".toList ∧
      session.store.Unique ∧
      (session.query ("EQUAL(" ++ Field.id.name ++ ",'" ++ "it's (1) " ++ "')")).1 =
        .ok [⟨"it's (1) ", "b", "", 7, 0⟩] := by
  intro session
  have comma : ',' ∉ "it's (1) ".toList := by decide
  have balanced : Balanced "it's (1) ".toList := by decide
  have unique : session.store.Unique := by
    change List.Nodup ["1", "it's (1) "]
    decide
  have kind : Field.id.kind = .text := rfl
  obtain ⟨-, -, single⟩ := session.query_equal_of_text kind "it's (1) "
  exact ⟨kind, comma, balanced, unique, single ⟨comma, balanced⟩ rfl unique⟩

/-- A text that ends its clause early is refused, and not taken for a shorter one. -/
example : ((Session.empty true).query ("EQUAL(" ++ "id" ++ ",'" ++ "a') or ('b" ++ "')")).1 =
    .error (.malformed (.trailing " or ('b')")) := by
  decide +kernel

end Session

end Quarry
