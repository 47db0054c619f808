import Quarry.Proofs.Outcome
import Quarry.Proofs.Selection

/-! What a query fails with. The test of a condition is made before any record is looked at, so that
what has been selected by then does not matter. Main statement: selection fails exactly when some
condition does not fit its field, and with the mismatch of the first one, whatever the records. -/

namespace Quarry

variable {condition : Condition} {conditions : List Condition} {query : Query}

/-- What a condition that does not fit its field is refused for. -/
def Condition.mismatch (condition : Condition) : Mismatch :=
  match condition.field.kind with
  | .text => .ordering condition.comparison condition.field
  | .number => .notInteger condition.literal condition.field

/-- The first condition, from left to right, that does not fit its field. -/
def Query.misfit? (query : Query) : Option Condition :=
  query.conditions.find? fun condition => ¬ condition.WellTyped

theorem Condition.test_of_not_wellTyped (h : ¬ condition.WellTyped) :
    condition.test = .error condition.mismatch := by
  unfold test mismatch
  cases kind : condition.field.kind with
  | text =>
    cases comparison : condition.comparison with
    | equal =>
      -- equality fits every text field
      exfalso
      apply h
      exact ⟨fun _ => comparison, fun number => by simp [kind] at number⟩
    | greater => rfl
    | less => rfl
  | number =>
    cases number : condition.number? with
    | none =>
      have read : Integer.ofText64? (Text.trim condition.literal.toList) = none := number
      rw [read]
    | some literal =>
      exfalso
      apply h
      exact ⟨fun text => by simp [kind] at text, fun _ => by simp [number]⟩

namespace Query

theorem misfit?_eq_none_iff : query.misfit? = none ↔ query.WellTyped := by
  simp [misfit?, WellTyped]

theorem narrow_of_not_wellTyped (h : ¬ condition.WellTyped) (kept : List Row) :
    narrow kept condition = .error condition.mismatch := by
  rw [narrow, Condition.test_of_not_wellTyped h, error_bind]

theorem widen_of_not_wellTyped (h : ¬ condition.WellTyped) (rows found : List Row) :
    widen rows found condition = .error condition.mismatch := by
  rw [widen, Condition.test_of_not_wellTyped h, error_bind]

/-- Going through conditions ends at the first misfit, as long as neither the outcome of a step nor
the reason that it fails for depends on what has been found. -/
theorem foldlM_of_misfit {step : List Row → Condition → Except Mismatch (List Row)}
    (accepts : ∀ condition, condition.WellTyped → ∀ rows, ∃ next, step rows condition = .ok next)
    (refuses : ∀ condition, ¬ condition.WellTyped → ∀ rows,
      step rows condition = .error condition.mismatch)
    (h : (conditions.find? fun condition => ¬ condition.WellTyped) = some condition)
    (rows : List Row) : conditions.foldlM step rows = .error condition.mismatch := by
  induction conditions generalizing rows with
  | nil => cases h
  | cons first conditions ih =>
    rw [List.foldlM_cons]
    by_cases typed : first.WellTyped
    · rw [List.find?_cons_of_neg (by simpa using typed)] at h
      obtain ⟨next, accepted⟩ := accepts first typed rows
      rw [accepted, ok_bind]
      exact ih h next
    · rw [List.find?_cons_of_pos (by simpa using typed)] at h
      obtain rfl := Option.some.inj h
      rw [refuses first typed rows, error_bind]

theorem selectRows_of_misfit (h : query.misfit? = some condition) (rows : List Row) :
    query.selectRows rows = .error condition.mismatch := by
  induction query with
  | leaf only =>
    obtain rfl := List.mem_singleton.1 (List.mem_of_find?_eq_some h)
    exact narrow_of_not_wellTyped (by simpa using List.find?_some h) rows
  | not query ih => rw [selectRows, ih h, error_bind]
  | all conditions =>
    refine foldlM_of_misfit ?_ ?_ h rows
    · intro condition typed rows
      exact ⟨_, narrow_of_wellTyped typed rows⟩
    · intro condition typed rows
      exact narrow_of_not_wellTyped typed rows
  | any conditions =>
    refine foldlM_of_misfit ?_ ?_ h []
    · intro condition typed found
      exact ⟨_, widen_of_wellTyped typed rows found⟩
    · intro condition typed found
      exact widen_of_not_wellTyped typed rows found

/-- Whether selection fails, and with what, can be told without the records. -/
theorem select_eq_error_iff_misfit {records : List Record} {reason : Mismatch} :
    query.select records = .error reason ↔
      ∃ condition, query.misfit? = some condition ∧ reason = condition.mismatch := by
  rw [select]
  cases misfit : query.misfit? with
  | none =>
    rw [selectRows_eq_chosen (misfit?_eq_none_iff.1 misfit) (numbered_zipIdx records)]
    simp [Except.map]
  | some condition =>
    rw [selectRows_of_misfit misfit]
    simp [Except.map, eq_comm]

theorem select_of_misfit (h : query.misfit? = some condition) (records : List Record) :
    query.select records = .error condition.mismatch :=
  select_eq_error_iff_misfit.2 ⟨condition, h, rfl⟩

/-- Selection fails because of the query alone, with the mismatch of the first condition that does
not fit its field. -/
theorem select_fails_with_first_misfit (query : Query) (records : List Record) :
    ((∃ reason, query.select records = .error reason) ↔
        ∃ condition ∈ query.conditions, ¬ condition.WellTyped) ∧
      (∀ reason, query.select records = .error reason ↔
        ∃ front condition back, query.conditions = front ++ condition :: back ∧
          (∀ earlier ∈ front, earlier.WellTyped) ∧ ¬ condition.WellTyped ∧
            reason = condition.mismatch) ∧
      ∀ others reason, query.select records = .error reason ↔
        query.select others = .error reason := by
  refine ⟨?_, ?_, ?_⟩
  · have some : query.misfit?.isSome ↔ ∃ condition ∈ query.conditions, ¬ condition.WellTyped := by
      simp [misfit?]
    rw [← some, Option.isSome_iff_exists]
    simp [select_eq_error_iff_misfit]
  · intro reason
    rw [select_eq_error_iff_misfit]
    simp only [misfit?, List.find?_eq_some_iff_append, decide_eq_true_iff]
    refine ⟨?_, ?_⟩
    · rintro ⟨condition, ⟨typed, front, back, eq, earlier⟩, rfl⟩
      exact ⟨front, condition, back, eq, by simpa using earlier, typed, rfl⟩
    · rintro ⟨front, condition, back, eq, earlier, typed, rfl⟩
      exact ⟨condition, ⟨typed, front, back, eq, by simpa using earlier⟩, rfl⟩
  · intro others reason
    rw [select_eq_error_iff_misfit, select_eq_error_iff_misfit]

example : (all [⟨.equal, .id, "1"⟩, ⟨.greater, .title, "a"⟩, ⟨.equal, .views, "x"⟩]).select [] =
    .error (.ordering .greater .title) := by
  rfl

end Query

end Quarry
