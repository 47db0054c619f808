import Quarry.Query.Error
import Quarry.Number.Integer
import Quarry.Text.Blank

/-!
Which records a query selects. Records are told apart by their position, so that equal records are
neither merged nor lost. Every condition is checked against its field when it is reached, whether or
not a record is left to compare, so that a mismatch depends on the query alone.
-/

namespace Quarry

def Comparison.holds : Comparison → Int64 → Int64 → Bool
  | .equal, value, literal => value == literal
  | .greater, value, literal => literal < value
  | .less, value, literal => value < literal

/-- The test that a condition stands for. -/
def Condition.test (condition : Condition) : Except Mismatch (Record → Bool) :=
  match condition.field.kind with
  | .text =>
    match condition.comparison with
    | .equal => .ok fun record => record.get condition.field == .text condition.literal
    | .greater | .less => .error (.ordering condition.comparison condition.field)
  | .number =>
    match Integer.ofText64? (Text.trim condition.literal.toList) with
    | none => .error (.notInteger condition.literal condition.field)
    | some literal => .ok fun record =>
      match record.get condition.field with
      | .number value => condition.comparison.holds value literal
      | .text _ => false

namespace Query

/-- A record with its position. -/
abbrev Row := Record × Nat

def contains (rows : List Row) (row : Row) : Bool :=
  rows.any fun other => other.2 == row.2

/-- Keeps the rows for which the condition holds. -/
def narrow (kept : List Row) (condition : Condition) : Except Mismatch (List Row) := do
  let holds ← condition.test
  return kept.filter fun row => holds row.1

/-- Adds the rows for which the condition holds and which are not there yet. -/
def widen (rows found : List Row) (condition : Condition) : Except Mismatch (List Row) := do
  let holds ← condition.test
  return found ++ rows.filter fun row => holds row.1 && !contains found row

def selectRows (query : Query) (rows : List Row) : Except Mismatch (List Row) :=
  match query with
  | .leaf condition => narrow rows condition
  | .not query => do
    let excluded ← query.selectRows rows
    return rows.filter fun row => !contains excluded row
  | .all conditions => conditions.foldlM narrow rows
  | .any conditions => conditions.foldlM (widen rows) []

/-- The positions of the selected records, in the order of the result. -/
def positions (query : Query) (records : List Record) : Except Mismatch (List Nat) :=
  (query.selectRows records.zipIdx).map fun rows => rows.map (·.2)

def select (query : Query) (records : List Record) : Except Mismatch (List Record) :=
  (query.selectRows records.zipIdx).map fun rows => rows.map (·.1)

end Query

end Quarry
