import Quarry.Query.Basic
import Quarry.Text.Quoted

/-!
The two texts of a query: the one in the query language, with the literal of a text field in single
quotes and nothing escaped, and the outline of the tree that goes into the log.
-/

namespace Quarry

def Condition.letters (condition : Condition) : List Char :=
  let literal := match condition.field.kind with
    | .text => '\'' :: condition.literal.toList ++ ['\'']
    | .number => condition.literal.toList
  condition.comparison.text.toList ++ '(' :: condition.field.name.toList ++ ',' :: literal ++ [')']

def Query.letters : Query → List Char
  | .leaf condition => condition.letters
  | .not query => "NOT(".toList ++ query.letters ++ [')']
  | .all conditions => "AND(".toList ++ List.intercalate [','] (conditions.map (·.letters)) ++ [')']
  | .any conditions => "OR(".toList ++ List.intercalate [','] (conditions.map (·.letters)) ++ [')']

def Query.text (query : Query) : String :=
  String.ofList query.letters

def Comparison.outline : Comparison → String
  | .equal => "Equal"
  | .greater => "GreaterThan"
  | .less => "LessThan"

def Field.outline : Field → String
  | .id => "Id"
  | .title => "Title"
  | .content => "Content"
  | .views => "Views"
  | .timestamp => "Timestamp"

def Condition.outline (condition : Condition) : String :=
  "Condition \x7b comparison: " ++ condition.comparison.outline ++ ", property: " ++
    condition.field.outline ++ ", literal: " ++ Text.quote condition.literal ++ " \x7d"

def Query.outline : Query → String
  | .leaf condition =>
    condition.comparison.outline ++ "(" ++ condition.field.outline ++ ", " ++
      Text.quote condition.literal ++ ")"
  | .not query => "Not(" ++ query.outline ++ ")"
  | .all conditions => "And([" ++ String.intercalate ", " (conditions.map (·.outline)) ++ "])"
  | .any conditions => "Or([" ++ String.intercalate ", " (conditions.map (·.outline)) ++ "])"

end Quarry
