import Quarry.Proofs.Messages
import Quarry.Proofs.Reading

/-! What the error of a query shows of it. One kind of error takes over a piece of the query as it is,
and every other kind quotes. Main statement: a query that is a single line is refused with a message that
is a single line. -/

namespace Quarry

variable {text inner rest : List Char} {e : QueryError}

/-- What the message takes over as it is stands somewhere in the text. -/
def QueryError.Within (e : QueryError) (text : List Char) : Prop :=
  ∀ part ∈ e.parts, part.toList <:+: text

theorem QueryError.Within.trans (h : e.Within inner) (h' : inner <:+: text) : e.Within text :=
  fun part mem => (h part mem).trans h'

theorem QueryError.within_of_parts (h : e.parts = []) (text : List Char) : e.Within text := by
  intro part mem
  rw [h] at mem
  cases mem

/-! The pieces of a clause. -/

theorem Keyword.within_of_read (h : Keyword.read text = .error e) (whole : List Char) :
    e.Within whole := by
  unfold Keyword.read at h
  split at h
  · cases h
  · cases h
    exact QueryError.within_of_parts rfl _

theorem Group.within_of_split (h : split text = .error e) (whole : List Char) : e.Within whole := by
  unfold split at h
  split at h
  · split at h
    · cases h
    · cases h
      exact QueryError.within_of_parts rfl _
  · cases h
    exact QueryError.within_of_parts rfl _

theorem Group.infix_of_split (h : split text = .ok (inner, rest)) : inner <:+: text := by
  obtain ⟨rfl, -⟩ := split_eq_ok_iff.1 h
  exact ⟨['('], ')' :: rest, by simp⟩

theorem Group.within_of_pair (h : pair inner = .error e) : e.Within inner := by
  have shown : (QueryError.malformed (.notPair (String.ofList inner))).Within inner := by
    intro part mem
    rw [List.mem_singleton.1 mem]
    exact ⟨[], [], by simp⟩
  unfold pair at h
  split at h
  · cases h
    exact shown
  · split at h
    · cases h
      exact shown
    · cases h

theorem Field.within_of_read (h : Field.read text = .error e) (whole : List Char) :
    e.Within whole := by
  unfold Field.read at h
  split at h
  · cases h
  · cases h
    exact QueryError.within_of_parts rfl _

theorem Group.within_of_unquote (h : unquote text = .error e) (whole : List Char) :
    e.Within whole := by
  unfold unquote at h
  split at h
  · cases h
  · cases h
    exact QueryError.within_of_parts rfl _

theorem Condition.within_of_ofParts {comparison : Comparison} {field : Field}
    (h : Condition.ofParts comparison field text = .error e) (whole : List Char) :
    e.Within whole := by
  unfold Condition.ofParts at h
  split at h
  · cases h
  · split at h
    · exact Group.within_of_unquote (map_eq_error_iff.1 h) whole
    · cases h
      exact QueryError.within_of_parts rfl _
    · cases h
      exact QueryError.within_of_parts rfl _

/-! Conditions, alone and in the body of a list. -/

theorem Condition.within_of_readAfter {comparison : Comparison}
    (h : Condition.readAfter comparison text = .error e) : e.Within text := by
  simp only [Condition.readAfter, bind_eq_error_iff] at h
  rcases h with cut | ⟨⟨inner, rest⟩, cut, pair | ⟨_, -, field | ⟨_, -, made | ⟨_, -, done⟩⟩⟩⟩
  · exact Group.within_of_split cut text
  · exact (Group.within_of_pair pair).trans (Group.infix_of_split cut)
  · exact Field.within_of_read field text
  · exact Condition.within_of_ofParts made text
  · cases done

theorem Condition.within_of_read (h : Condition.read text = .error e) : e.Within text := by
  simp only [Condition.read, bind_eq_error_iff] at h
  rcases h with read | ⟨⟨keyword, after⟩, read, failed⟩
  · exact Keyword.within_of_read read text
  · obtain rfl := Keyword.read_eq_ok_iff.1 read
    split at failed
    · exact (Condition.within_of_readAfter failed).trans (List.suffix_append _ _).isInfix
    · cases failed
      exact QueryError.within_of_parts rfl _

/-- Each condition is read from what the ones before it have left of the body. -/
theorem Condition.within_of_readList (h : Condition.readList text = .error e) : e.Within text := by
  fun_induction Condition.readList text with
  | case1 body empty => cases h
  | case2 body nonempty e failed =>
    cases h
    exact Condition.within_of_read failed
  | case3 body nonempty condition read => cases h
  | case4 body nonempty read =>
    cases h
    exact QueryError.within_of_parts rfl _
  | case5 body nonempty condition next more read ih =>
    obtain ⟨clause, -, rfl⟩ := Condition.read_eq_ok_iff.1 read
    have left : next <:+: clause ++ ',' :: next := ⟨clause ++ [','], [], by simp⟩
    exact (ih (map_eq_error_iff.1 h)).trans left
  | case6 body nonempty condition rest last comma next read =>
    cases h
    exact QueryError.within_of_parts rfl _

/-! Expressions. -/

namespace Query

theorem within_of_expectEnd (h : expectEnd rest = .error e) (whole : List Char) :
    e.Within whole := by
  unfold expectEnd at h
  split at h
  · cases h
  · cases h
    exact QueryError.within_of_parts rfl _

theorem within_of_readLeaf {comparison : Comparison} (h : readLeaf comparison text = .error e) :
    e.Within text := by
  simp only [readLeaf, bind_eq_error_iff] at h
  rcases h with failed | ⟨_, -, done⟩
  · exact Condition.within_of_readAfter failed
  · cases done

theorem within_of_readConditions {make : List Condition → Query}
    (h : readConditions make text = .error e) : e.Within text := by
  simp only [readConditions, bind_eq_error_iff] at h
  rcases h with cut | ⟨⟨inner, rest⟩, cut, failed | ⟨_, -, done⟩⟩
  · exact Group.within_of_split cut text
  · exact (Condition.within_of_readList failed).trans (Group.infix_of_split cut)
  · cases done

theorem within_of_readTree {levels : Nat} {text : List Char} {e : QueryError}
    (h : (readTree levels text).result = .error e) : e.Within text := by
  cases read : Keyword.read text with
  | error reason =>
    rw [readTree] at h
    simp only [read] at h
    cases h
    exact Keyword.within_of_read read text
  | ok parts =>
    obtain ⟨keyword, after⟩ := parts
    have left : after <:+: text := by
      rw [Keyword.read_eq_ok_iff.1 read]
      exact (List.suffix_append _ _).isInfix
    rcases keyword.comparison_or with ⟨comparison, rfl⟩ | rfl | rfl | rfl
    · rw [readTree_comparison read] at h
      exact (within_of_readLeaf h).trans left
    · rw [readTree_and read] at h
      exact (within_of_readConditions h).trans left
    · rw [readTree_or read] at h
      exact (within_of_readConditions h).trans left
    · cases levels with
      | zero =>
        rw [readTree_not_zero read] at h
        cases h
        exact QueryError.within_of_parts rfl _
      | succ levels =>
        rw [readTree] at h
        simp only [read] at h
        split at h
        · next cut =>
          cases h
          exact Group.within_of_split cut text
        · next inner rest cut =>
          simp only [bind_eq_error_iff] at h
          rcases h with below | ⟨_, -, more | ⟨_, -, done⟩⟩
          · exact ((within_of_readTree below).trans (Group.infix_of_split cut)).trans left
          · exact within_of_expectEnd more text
          · cases done
termination_by levels

theorem within_of_ofText {raw : String} (h : ofText raw = .error e) : e.Within raw.toList := by
  simp only [ofText, read, bind_eq_error_iff] at h
  rcases h with tree | ⟨_, -, more | ⟨_, -, done⟩⟩
  · exact (within_of_readTree tree).trans (Text.trim_infix raw.toList)
  · exact within_of_expectEnd more raw.toList
  · cases done

end Query

/-- No error breaks the line, unless the query has done so. -/
theorem Query.singleLine_message_of_ofText {raw : String} (single : Text.SingleLine raw)
    (h : ofText raw = .error e) : Text.SingleLine e.message := by
  apply QueryError.singleLine_message
  intro part mem mem'
  exact single ((within_of_ofText h part mem).subset mem')

end Quarry
