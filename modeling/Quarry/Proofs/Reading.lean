import Mathlib.Data.List.TakeWhile
import Quarry.Proofs.Grammar
import Quarry.Proofs.Outcome
import Quarry.Query.Reader

/-! Reading a query against its grammar. The reader goes by the depth of parentheses and cuts off
one piece after another. Main statement: it accepts exactly the texts that derive a tree of at most
64 nested NOTs, and it builds that tree. -/

namespace Quarry

open Quarry.Group

variable {text inner rest : List Char} {keyword : Keyword} {condition : Condition}

theorem Keyword.mem_list (keyword : Keyword) : keyword ∈ Keyword.list := by
  cases keyword <;> decide

/-- No two keywords start alike, so that the order in which they are tried does not matter. -/
theorem Keyword.eq_of_prefix {other : Keyword}
    (h : keyword.text.toList <+: other.text.toList ++ rest) : keyword = other := by
  cases keyword <;> cases other <;> simp [Keyword.text] at h ⊢

theorem Keyword.read_eq_ok_iff :
    Keyword.read text = .ok (keyword, rest) ↔ text = keyword.text.toList ++ rest := by
  unfold Keyword.read
  cases found : Keyword.list.find? fun keyword => keyword.text.toList.isPrefixOf text with
  | none =>
    simp only [reduceCtorEq, false_iff]
    rintro rfl
    have := List.find?_eq_none.1 found keyword keyword.mem_list
    simp at this
  | some other =>
    have front := List.find?_some found
    simp only [List.isPrefixOf_iff_prefix] at front
    obtain ⟨after, rfl⟩ := front
    simp only [List.drop_left, Except.ok.injEq, Prod.mk.injEq]
    refine ⟨?_, ?_⟩
    · rintro ⟨rfl, rfl⟩
      rfl
    · intro h
      obtain rfl : other = keyword := Keyword.eq_of_prefix ⟨after, h⟩
      exact ⟨rfl, List.append_cancel_left h⟩

theorem Keyword.read_group (keyword : Keyword) (inner rest : List Char) :
    Keyword.read (keyword.group inner ++ rest) = .ok (keyword, '(' :: inner ++ ')' :: rest) := by
  rw [Keyword.read_eq_ok_iff, Keyword.group_append]

theorem Keyword.comparison?_eq_some_iff {comparison : Comparison} :
    keyword.comparison? = some comparison ↔ keyword = comparison.keyword := by
  cases keyword <;> cases comparison <;> decide

theorem Keyword.comparison_or (keyword : Keyword) :
    (∃ comparison : Comparison, keyword = comparison.keyword) ∨
      keyword = .and ∨ keyword = .or ∨ keyword = .not := by
  cases eq : keyword.comparison? with
  | some comparison => exact Or.inl ⟨comparison, Keyword.comparison?_eq_some_iff.1 eq⟩
  | none => cases keyword <;> simp_all [Keyword.comparison?]

/-! The pieces of a clause. -/

theorem Field.read_eq_ok_iff {field : Field} :
    Field.read text = .ok field ↔ text = field.name.toList := by
  have named : Field.read text = .ok field ↔ Field.ofName? (String.ofList text) = some field := by
    unfold Field.read
    cases Field.ofName? (String.ofList text) <;> simp
  rw [named, Field.ofName?_eq_some_iff]
  refine ⟨?_, ?_⟩
  · intro h
    rw [h, String.toList_ofList]
  · rintro rfl
    rw [String.ofList_toList]

theorem Group.pair_of_not_mem (h : ',' ∉ text) :
    pair text = .error (.malformed (.notPair (String.ofList text))) := by
  have all : text.dropWhile (· ≠ ',') = [] := by
    rw [List.dropWhile_eq_nil_iff]
    intro c mem
    simpa using ne_of_mem_of_not_mem mem h
  rw [pair, all]

theorem Group.pair_append {name value : List Char} (h : ',' ∉ name) :
    pair (name ++ ',' :: value) =
      if ',' ∈ value then .error (.malformed (.notPair (String.ofList (name ++ ',' :: value))))
      else .ok (name, value) := by
  have plain : ∀ c ∈ name, decide (c ≠ ',') = true := fun c mem => by
    simpa using ne_of_mem_of_not_mem mem h
  unfold pair
  rw [List.dropWhile_append_of_pos plain, List.takeWhile_append_of_pos plain]
  simp

/-- The body of a clause holds exactly one comma. -/
theorem Group.pair_eq_ok_iff {name value : List Char} :
    pair text = .ok (name, value) ↔ text = name ++ ',' :: value ∧ ',' ∉ name ∧ ',' ∉ value := by
  refine ⟨?_, ?_⟩
  · intro h
    by_cases mem : ',' ∈ text
    · obtain ⟨front, back, rfl, first⟩ := List.eq_append_cons_of_mem mem
      rw [pair_append first] at h
      split at h
      · cases h
      · next second =>
        cases h
        exact ⟨rfl, first, second⟩
    · simp [pair_of_not_mem mem] at h
  · rintro ⟨rfl, first, second⟩
    rw [pair_append first, if_neg second]

theorem Group.unquote_append (opening closing : Char) (literal : List Char) :
    unquote (opening :: literal ++ [closing]) = .ok literal := by
  cases literal with
  | nil => rfl
  | cons c literal =>
    change Except.ok (c :: literal ++ [closing]).dropLast = _
    rw [List.dropLast_concat]

theorem Group.unquote_eq_ok_iff {literal : List Char} :
    unquote text = .ok literal ↔ ∃ opening closing, text = opening :: literal ++ [closing] := by
  refine ⟨?_, ?_⟩
  · intro h
    unfold unquote at h
    split at h
    · next opening c rest =>
      cases h
      exact ⟨opening, (c :: rest).getLast (by simp), by simp [List.dropLast_concat_getLast]⟩
    · cases h
  · rintro ⟨opening, closing, rfl⟩
    exact unquote_append opening closing literal

theorem Condition.ofParts_eq_ok_iff {comparison : Comparison} {field : Field} :
    Condition.ofParts comparison field text = .ok condition ↔
      condition.comparison = comparison ∧ condition.field = field ∧ condition.Spelled text := by
  refine ⟨?_, ?_⟩
  · intro h
    unfold Condition.ofParts at h
    split at h
    · next kind =>
      cases h
      exact ⟨rfl, rfl, .number kind text⟩
    · next kind =>
      split at h
      · obtain ⟨literal, unquoted, rfl⟩ := map_eq_ok_iff.1 h
        obtain ⟨opening, closing, rfl⟩ := unquote_eq_ok_iff.1 unquoted
        exact ⟨rfl, rfl, .text kind opening closing literal⟩
      · cases h
      · cases h
  · rintro ⟨rfl, rfl, spelled⟩
    cases spelled with
    | number kind => simp [Condition.ofParts, kind]
    | text kind opening closing literal =>
      simp only [Condition.ofParts, kind, unquote_append]
      rfl

/-! Conditions, alone and in the body of a list. -/

theorem Condition.readAfter_eq_ok_iff {comparison : Comparison} :
    Condition.readAfter comparison text = .ok (condition, rest) ↔
      condition.comparison = comparison ∧ ∃ clause, Condition.Derives clause condition ∧
        comparison.keyword.text.toList ++ text = clause ++ rest := by
  simp only [Condition.readAfter, bind_eq_ok_iff, pure_eq_ok_iff, Prod.exists, Prod.mk.injEq,
    split_eq_ok_iff, pair_eq_ok_iff, Field.read_eq_ok_iff, Condition.ofParts_eq_ok_iff]
  refine ⟨?_, ?_⟩
  · rintro ⟨inner, after, ⟨rfl, balanced⟩, name, value, ⟨rfl, -, comma⟩, field, rfl, made,
      ⟨rfl, rfl, spelled⟩, rfl, rfl⟩
    refine ⟨rfl, _, .clause spelled comma (made.field.balanced_name_append_iff.1 balanced), ?_⟩
    simp [Keyword.group]
  · rintro ⟨rfl, clause, ⟨spelled, comma, balanced⟩, eq⟩
    simp only [Keyword.group, List.append_assoc, List.append_cancel_left_eq] at eq
    refine ⟨_, rest, ⟨by simpa using eq, (Field.balanced_name_append_iff _).2 balanced⟩, _, _,
      ⟨rfl, Field.comma_notMem_name _, comma⟩, _, rfl, _, ⟨rfl, rfl, spelled⟩, rfl, rfl⟩

theorem Condition.read_eq_ok_iff :
    Condition.read text = .ok (condition, rest) ↔
      ∃ clause, Condition.Derives clause condition ∧ text = clause ++ rest := by
  simp only [Condition.read, bind_eq_ok_iff, Prod.exists, Keyword.read_eq_ok_iff]
  refine ⟨?_, ?_⟩
  · rintro ⟨keyword, after, rfl, h⟩
    split at h
    · next comparison eq =>
      obtain rfl := Keyword.comparison?_eq_some_iff.1 eq
      obtain ⟨-, clause, derives, split⟩ := Condition.readAfter_eq_ok_iff.1 h
      exact ⟨clause, derives, split⟩
    · cases h
  · rintro ⟨clause, derives, rfl⟩
    obtain ⟨after, starts⟩ := derives.starts
    refine ⟨condition.comparison.keyword, after ++ rest, by rw [starts, List.append_assoc], ?_⟩
    rw [Comparison.comparison?_keyword]
    exact Condition.readAfter_eq_ok_iff.2
      ⟨rfl, clause, derives, by rw [starts, List.append_assoc]⟩

theorem Condition.readList_of_read_end (h : Condition.read text = .ok (condition, [])) :
    Condition.readList text = .ok [condition] := by
  have shorter := Condition.length_of_read h
  rw [Condition.readList, if_neg (by rintro empty; simp_all)]
  split <;> simp_all

theorem Condition.readList_of_read_comma (h : Condition.read text = .ok (condition, ',' :: rest))
    (more : rest ≠ []) :
    Condition.readList text = (Condition.readList rest).map (condition :: ·) := by
  have shorter := Condition.length_of_read h
  rw [Condition.readList, if_neg (by rintro empty; simp_all)]
  split <;> simp_all

/-- The loop over the body of a list ends where the body does. -/
theorem Condition.readList_eq_ok_iff {conditions : List Condition} :
    Condition.readList text = .ok conditions ↔
      ∃ clauses, List.Forall₂ Condition.Derives clauses conditions ∧
        text = [','].intercalate clauses := by
  refine ⟨?_, ?_⟩
  · intro h
    fun_induction Condition.readList text generalizing conditions with
    | case1 body empty =>
      cases h
      exact ⟨[], .nil, List.isEmpty_iff.1 empty⟩
    | case2 body nonempty e failed => cases h
    | case3 body nonempty condition read =>
      cases h
      obtain ⟨clause, derives, rfl⟩ := Condition.read_eq_ok_iff.1 read
      exact ⟨[clause], .cons derives .nil, by simp⟩
    | case4 body nonempty read => cases h
    | case5 body nonempty condition next more read ih =>
      obtain ⟨conditions, readNext, rfl⟩ := map_eq_ok_iff.1 h
      obtain ⟨clause, derives, rfl⟩ := Condition.read_eq_ok_iff.1 read
      obtain ⟨clauses, all, rfl⟩ := ih readNext
      refine ⟨clause :: clauses, .cons derives all, ?_⟩
      rw [List.intercalate_cons_of_ne_nil, List.append_assoc, List.singleton_append]
      rintro rfl
      exact more rfl
    | case6 body nonempty condition rest last comma next read => cases h
  · rintro ⟨clauses, derives, rfl⟩
    induction derives with
    | nil => rw [List.intercalate_nil, Condition.readList]; rfl
    | @cons clause condition clauses conditions derives more ih =>
      cases more with
      | nil =>
        rw [List.intercalate_singleton]
        exact Condition.readList_of_read_end
          (Condition.read_eq_ok_iff.2 ⟨clause, derives, (List.append_nil _).symm⟩)
      | @cons next _ clauses _ derivesNext more =>
        have read : Condition.read (clause ++ ',' :: [','].intercalate (next :: clauses)) =
            .ok (condition, ',' :: [','].intercalate (next :: clauses)) :=
          Condition.read_eq_ok_iff.2 ⟨clause, derives, rfl⟩
        rw [List.intercalate_cons_cons, List.append_assoc, List.singleton_append,
          Condition.readList_of_read_comma read, ih]
        · rfl
        · obtain ⟨c, tail, rfl⟩ := List.exists_cons_of_ne_nil derivesNext.ne_nil
          simp [List.intercalate_cons_cons_left]

/-! Expressions. -/

namespace Query

variable {levels : Nat} {query : Query} {comparison : Comparison}

theorem readLeaf_eq_ok_iff :
    readLeaf comparison text = .ok (query, rest) ↔ ∃ condition, query = .leaf condition ∧
      condition.comparison = comparison ∧ ∃ clause, Condition.Derives clause condition ∧
        comparison.keyword.text.toList ++ text = clause ++ rest := by
  simp only [readLeaf, bind_eq_ok_iff, pure_eq_ok_iff, Prod.exists, Prod.mk.injEq,
    Condition.readAfter_eq_ok_iff]
  refine ⟨?_, ?_⟩
  · rintro ⟨condition, after, ⟨rfl, derives⟩, rfl, rfl⟩
    exact ⟨condition, rfl, rfl, derives⟩
  · rintro ⟨condition, rfl, rfl, derives⟩
    exact ⟨condition, rest, ⟨rfl, derives⟩, rfl, rfl⟩

theorem readConditions_eq_ok_iff {make : List Condition → Query} :
    readConditions make text = .ok (query, rest) ↔ ∃ conditions, query = make conditions ∧
      ∃ clauses, List.Forall₂ Condition.Derives clauses conditions ∧
        text = '(' :: [','].intercalate clauses ++ ')' :: rest := by
  simp only [readConditions, bind_eq_ok_iff, pure_eq_ok_iff, Prod.exists, Prod.mk.injEq,
    split_eq_ok_iff, Condition.readList_eq_ok_iff]
  refine ⟨?_, ?_⟩
  · rintro ⟨body, after, ⟨rfl, -⟩, conditions, ⟨clauses, derives, rfl⟩, rfl, rfl⟩
    exact ⟨conditions, rfl, clauses, derives, rfl⟩
  · rintro ⟨conditions, rfl, clauses, derives, rfl⟩
    exact ⟨_, rest, ⟨rfl, balanced_intercalate derives⟩, conditions, ⟨clauses, derives, rfl⟩,
      rfl, rfl⟩

theorem expectEnd_eq_ok_iff {u : Unit} : expectEnd text = .ok u ↔ text = [] := by
  cases text <;> simp [expectEnd]

theorem readTree_comparison (h : Keyword.read text = .ok (comparison.keyword, rest)) :
    (readTree levels text).result = readLeaf comparison rest := by
  cases comparison <;> simp [readTree, h, Comparison.keyword]

theorem readTree_and (h : Keyword.read text = .ok (.and, rest)) :
    (readTree levels text).result = readConditions .all rest := by
  simp [readTree, h]

theorem readTree_or (h : Keyword.read text = .ok (.or, rest)) :
    (readTree levels text).result = readConditions .any rest := by
  simp [readTree, h]

theorem readTree_not_zero (h : Keyword.read text = .ok (.not, rest)) :
    (readTree 0 text).result = .error (.malformed .tooDeep) := by
  simp [readTree, h]

theorem readTree_not_succ_eq_ok_iff {after : List Char} (h : Keyword.read text = .ok (.not, after)) :
    (readTree (levels + 1) text).result = .ok (query, rest) ↔ ∃ inner below,
      query = .not below ∧ split after = .ok (inner, rest) ∧
        (readTree levels inner).result = .ok (below, []) := by
  cases cut : split after with
  | error e =>
    rw [readTree]
    simp [h, cut]
  | ok parts =>
    obtain ⟨inner, after⟩ := parts
    rw [readTree]
    simp only [h, cut, bind_eq_ok_iff, pure_eq_ok_iff, expectEnd_eq_ok_iff, Prod.exists,
      Prod.mk.injEq, Except.ok.injEq]
    refine ⟨?_, ?_⟩
    · rintro ⟨below, leftover, read, -, rfl, rfl, rfl⟩
      exact ⟨inner, below, rfl, ⟨rfl, rfl⟩, read⟩
    · rintro ⟨_, below, rfl, ⟨rfl, rfl⟩, read⟩
      exact ⟨below, [], read, (), rfl, rfl, rfl⟩

theorem exists_read_of_readTree (h : (readTree levels text).result = .ok (query, rest)) :
    ∃ keyword after, Keyword.read text = .ok (keyword, after) := by
  cases read : Keyword.read text with
  | error e =>
    rw [readTree] at h
    simp [read] at h
  | ok parts => exact ⟨parts.1, parts.2, rfl⟩

theorem derives_of_readTree {levels : Nat} {text rest : List Char} {query : Query}
    (h : (readTree levels text).result = .ok (query, rest)) :
    query.negations ≤ levels ∧ ∃ front, Derives front query ∧ text = front ++ rest := by
  obtain ⟨keyword, after, read⟩ := exists_read_of_readTree h
  obtain rfl := Keyword.read_eq_ok_iff.1 read
  rcases keyword.comparison_or with ⟨comparison, rfl⟩ | rfl | rfl | rfl
  · rw [readTree_comparison read, readLeaf_eq_ok_iff] at h
    obtain ⟨condition, rfl, rfl, clause, derives, split⟩ := h
    exact ⟨Nat.zero_le _, clause, .leaf derives, split⟩
  · rw [readTree_and read, readConditions_eq_ok_iff] at h
    obtain ⟨conditions, rfl, clauses, derives, rfl⟩ := h
    exact ⟨Nat.zero_le _, _, .all derives, (Keyword.group_append _ _ _).symm⟩
  · rw [readTree_or read, readConditions_eq_ok_iff] at h
    obtain ⟨conditions, rfl, clauses, derives, rfl⟩ := h
    exact ⟨Nat.zero_le _, _, .any derives, (Keyword.group_append _ _ _).symm⟩
  · cases levels with
    | zero =>
      rw [readTree_not_zero read] at h
      cases h
    | succ levels =>
      obtain ⟨inner, below, rfl, cut, inside⟩ := (readTree_not_succ_eq_ok_iff read).1 h
      obtain ⟨bound, front, derives, eq⟩ := derives_of_readTree inside
      obtain ⟨rfl, -⟩ := split_eq_ok_iff.1 cut
      rw [List.append_nil] at eq
      exact ⟨Nat.succ_le_succ bound, _, .not derives, by simp [Keyword.group, eq]⟩
termination_by levels

/-- One expression is taken off the front of a text exactly when the front derives a tree. -/
theorem readTree_eq_ok_iff :
    (readTree levels text).result = .ok (query, rest) ↔
      query.negations ≤ levels ∧ ∃ front, Derives front query ∧ text = front ++ rest := by
  refine ⟨?_, ?_⟩
  · exact derives_of_readTree
  · rintro ⟨bound, front, derives, rfl⟩
    induction derives generalizing levels rest with
    | @leaf text condition h =>
      obtain ⟨after, starts⟩ := h.starts
      rw [readTree_comparison (Keyword.read_eq_ok_iff.2 (by rw [starts, List.append_assoc]))]
      exact readLeaf_eq_ok_iff.2
        ⟨condition, rfl, rfl, text, h, by rw [starts, List.append_assoc]⟩
    | @not text query h ih =>
      cases levels with
      | zero => simp [negations] at bound
      | succ levels =>
        rw [readTree_not_succ_eq_ok_iff (Keyword.read_group _ _ _)]
        refine ⟨text, query, rfl, split_eq_ok_iff.2 ⟨rfl, h.balanced⟩, ?_⟩
        have below : (readTree levels (text ++ [])).result = .ok (query, []) :=
          ih (Nat.le_of_succ_le_succ bound)
        rwa [List.append_nil] at below
    | all h =>
      rw [readTree_and (Keyword.read_group _ _ _)]
      exact readConditions_eq_ok_iff.2 ⟨_, rfl, _, h, rfl⟩
    | any h =>
      rw [readTree_or (Keyword.read_group _ _ _)]
      exact readConditions_eq_ok_iff.2 ⟨_, rfl, _, h, rfl⟩

theorem readTree_eq_ok_nil_iff :
    (readTree levels text).result = .ok (query, []) ↔
      query.negations ≤ levels ∧ Derives text query := by
  rw [readTree_eq_ok_iff]
  simp

theorem ofText_eq_ok_iff_readTree {raw : String} : ofText raw = .ok query ↔
    (readTree maxNegations (Text.trim raw.toList)).result = .ok (query, []) := by
  simp only [ofText, read, bind_eq_ok_iff, pure_eq_ok_iff, expectEnd_eq_ok_iff, Prod.exists]
  refine ⟨?_, ?_⟩
  · rintro ⟨query, rest, read, -, rfl, rfl⟩
    exact read
  · intro read
    exact ⟨query, [], read, (), rfl, rfl⟩

/-- A query is read from exactly the texts that derive it, blanks around them aside. -/
theorem ofText_eq_ok_iff_derives (raw : String) (query : Query) :
    ofText raw = .ok query ↔ Derives (Text.trim raw.toList) query ∧ query.negations ≤ 64 := by
  rw [ofText_eq_ok_iff_readTree, readTree_eq_ok_nil_iff, and_comm]
  rfl

end Query

end Quarry
