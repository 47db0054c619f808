import Quarry.Record

/-!
Queries over records. A condition compares one field with a literal; a query is a condition, a
negation, or a list of conditions of which all or any must hold.
-/

namespace Quarry

/-- The words that head an expression. -/
inductive Keyword where
  | equal
  | and
  | or
  | not
  | greaterThan
  | lessThan
  deriving DecidableEq, Repr

inductive Comparison where
  | equal
  | greater
  | less
  deriving DecidableEq, Repr

/-- The literal is kept as text: whether it stands for a number is decided when it is compared. -/
structure Condition where
  comparison : Comparison
  field : Field
  literal : String
  deriving DecidableEq, Repr

inductive Query where
  | leaf (condition : Condition)
  | not (query : Query)
  | all (conditions : List Condition)
  | any (conditions : List Condition)
  deriving DecidableEq, Repr

namespace Keyword

/-- The keywords in the order in which a text is searched for them. -/
def list : List Keyword := [.equal, .and, .or, .not, .greaterThan, .lessThan]

def text : Keyword → String
  | .equal => "EQUAL"
  | .and => "AND"
  | .or => "OR"
  | .not => "NOT"
  | .greaterThan => "GREATER_THAN"
  | .lessThan => "LESS_THAN"

def comparison? : Keyword → Option Comparison
  | .equal => some .equal
  | .greaterThan => some .greater
  | .lessThan => some .less
  | .and | .or | .not => none

end Keyword

def Comparison.keyword : Comparison → Keyword
  | .equal => .equal
  | .greater => .greaterThan
  | .less => .lessThan

def Comparison.text (comparison : Comparison) : String :=
  comparison.keyword.text

theorem Comparison.comparison?_keyword (comparison : Comparison) :
    comparison.keyword.comparison? = some comparison := by
  cases comparison <;> rfl

def Query.head : Query → Keyword
  | .leaf condition => condition.comparison.keyword
  | .not _ => .not
  | .all _ => .and
  | .any _ => .or

def Query.condition? : Query → Option Condition
  | .leaf condition => some condition
  | .not _ | .all _ | .any _ => none

/-- The conditions of a query, from left to right. -/
def Query.conditions : Query → List Condition
  | .leaf condition => [condition]
  | .not query => query.conditions
  | .all conditions | .any conditions => conditions

/-- How many NOTs stand around the innermost expression. -/
def Query.negations : Query → Nat
  | .not query => query.negations + 1
  | .leaf _ | .all _ | .any _ => 0

end Quarry
