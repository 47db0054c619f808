import Mathlib.Data.Option.Basic
import Quarry.Query.Selection

/-! What a query says of one record, and when its conditions fit their fields. The test that a
fitting condition is compiled to is what the condition says. -/

namespace Quarry

/-- Order and equality are those of the integers. -/
def Comparison.Relates : Comparison → Int → Int → Prop
  | .equal, value, literal => value = literal
  | .greater, value, literal => value > literal
  | .less, value, literal => value < literal

/-- The number that a literal stands for, blanks around it aside. -/
def Condition.number? (condition : Condition) : Option Int64 :=
  Integer.ofText64? (Text.trim condition.literal.toList)

structure Condition.WellTyped (condition : Condition) : Prop where
  equality : condition.field.kind = .text → condition.comparison = .equal
  number : condition.field.kind = .number → condition.number?.isSome

def Query.WellTyped (query : Query) : Prop :=
  ∀ condition ∈ query.conditions, condition.WellTyped

def Condition.Holds (condition : Condition) (record : Record) : Prop :=
  match record.get condition.field with
  | .text value => value = condition.literal
  | .number value =>
    ∃ literal ∈ condition.number?, condition.comparison.Relates value.toInt literal.toInt

def Query.Satisfied : Query → Record → Prop
  | .leaf condition, record => condition.Holds record
  | .not query, record => ¬ query.Satisfied record
  | .all conditions, record => ∀ condition ∈ conditions, condition.Holds record
  | .any conditions, record => ∃ condition ∈ conditions, condition.Holds record

variable {condition : Condition} {record : Record} {value literal : Int64}

instance (comparison : Comparison) (value literal : Int) :
    Decidable (comparison.Relates value literal) :=
  match comparison with
  | .equal => inferInstanceAs (Decidable (value = literal))
  | .greater => inferInstanceAs (Decidable (value > literal))
  | .less => inferInstanceAs (Decidable (value < literal))

instance : Decidable condition.WellTyped :=
  decidable_of_iff ((condition.field.kind = .text → condition.comparison = .equal) ∧
    (condition.field.kind = .number → condition.number?.isSome))
    ⟨fun h => ⟨h.1, h.2⟩, fun h => ⟨h.1, h.2⟩⟩

instance (query : Query) : Decidable query.WellTyped :=
  inferInstanceAs (Decidable (∀ condition ∈ query.conditions, condition.WellTyped))

theorem Condition.holds_of_text {value : String} (h : record.get condition.field = .text value) :
    condition.Holds record ↔ value = condition.literal := by
  simp [Holds, h]

theorem Condition.holds_of_number (h : record.get condition.field = .number value) :
    condition.Holds record ↔
      ∃ literal ∈ condition.number?, condition.comparison.Relates value.toInt literal.toInt := by
  simp [Holds, h]

instance : Decidable (condition.Holds record) :=
  match h : record.get condition.field with
  | .text _ => decidable_of_iff _ (Condition.holds_of_text h).symm
  | .number _ => decidable_of_iff _ (Condition.holds_of_number h).symm

instance Query.decidableSatisfied (query : Query) (record : Record) :
    Decidable (query.Satisfied record) :=
  match query with
  | .leaf condition => inferInstanceAs (Decidable (condition.Holds record))
  | .not query =>
    have := query.decidableSatisfied record
    inferInstanceAs (Decidable (¬ query.Satisfied record))
  | .all conditions =>
    inferInstanceAs (Decidable (∀ condition ∈ conditions, condition.Holds record))
  | .any conditions =>
    inferInstanceAs (Decidable (∃ condition ∈ conditions, condition.Holds record))

theorem Comparison.holds_eq_decide (comparison : Comparison) (value literal : Int64) :
    comparison.holds value literal = decide (comparison.Relates value.toInt literal.toInt) := by
  rw [Bool.eq_iff_iff, decide_eq_true_iff]
  cases comparison with
  | equal => simp [holds, Relates, Int64.toInt_inj]
  | greater => simp [holds, Relates, Int64.lt_iff_toInt_lt]
  | less => simp [holds, Relates, Int64.lt_iff_toInt_lt]

theorem Record.get_of_text {field : Field} (kind : field.kind = .text) (record : Record) :
    ∃ value, record.get field = .text value := by
  cases field <;> simp_all [Record.get, Field.kind]

theorem Record.get_of_number {field : Field} (kind : field.kind = .number) (record : Record) :
    ∃ value, record.get field = .number value := by
  cases field <;> simp_all [Record.get, Field.kind]

theorem Condition.test_of_wellTyped (h : condition.WellTyped) :
    condition.test = .ok fun record => decide (condition.Holds record) := by
  unfold test
  cases kind : condition.field.kind with
  | text =>
    simp only [h.equality kind, Except.ok.injEq]
    funext record
    obtain ⟨value, get⟩ := record.get_of_text kind
    rw [get, Bool.eq_iff_iff, decide_eq_true_iff, holds_of_text get]
    simp
  | number =>
    obtain ⟨literal, number⟩ := Option.isSome_iff_exists.1 (h.number kind)
    have read : Integer.ofText64? (Text.trim condition.literal.toList) = some literal := number
    simp only [read, Except.ok.injEq]
    funext record
    obtain ⟨value, get⟩ := record.get_of_number kind
    simp only [get, Comparison.holds_eq_decide, holds_of_number get, number, Option.mem_def,
      Option.some.injEq, exists_eq_left']

end Quarry
