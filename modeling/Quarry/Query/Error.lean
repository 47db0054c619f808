import Quarry.Query.Basic
import Quarry.Text.Quoted

/-!
Why a query is refused: its text starts with no keyword, a clause of it is malformed, or a
comparison does not fit its field. The first two are errors of syntax.
-/

namespace Quarry

inductive Malformed where
  | notOpened (start : String)
  | notClosed (start : String)
  | notPair (inner : String)
  | notQuoted (value : String)
  | unknownField (name : String)
  | trailing (rest : String)
  | tooDeep
  | notComparison (keyword : Keyword)
  | trailingComma
  | notSeparated (rest : String)
  deriving DecidableEq, Repr

inductive Mismatch where
  | ordering (comparison : Comparison) (field : Field)
  | notInteger (literal : String) (field : Field)
  deriving DecidableEq, Repr

inductive QueryError where
  | unrecognized (start : String)
  | malformed (reason : Malformed)
  | mismatch (reason : Mismatch)
  deriving DecidableEq, Repr

/-- The most NOTs that may stand around an expression. -/
def maxNegations : Nat := 64

/-- The start of a text, short enough for a message. -/
def snippet (text : List Char) : String :=
  String.ofList (text.take 32)

open Text in
def Malformed.message : Malformed → String
  | .notOpened start => "expected '(' at " ++ quote start
  | .notClosed start => "missing ')' for " ++ quote start
  | .notPair inner => "expected (property,value), got (" ++ inner ++ ")"
  | .notQuoted value => "string literal must be quoted, got " ++ quote value
  | .unknownField name => "unknown property " ++ quote name
  | .trailing rest => "unexpected trailing input " ++ quote rest
  | .tooDeep => "nesting too deep, at most " ++ toString maxNegations ++ " NOT levels"
  | .notComparison keyword =>
    keyword.text ++ " cannot appear inside AND/OR, expected a comparison"
  | .trailingComma => "trailing ',' in condition list"
  | .notSeparated rest => "expected ',' between conditions, got " ++ quote rest

def Mismatch.message : Mismatch → String
  | .ordering comparison field =>
    comparison.text ++ " requires a number property, " ++ field.name ++ " is a string"
  | .notInteger literal field =>
    Text.quote literal ++ " is not an integer literal for " ++ field.name

namespace QueryError

def message : QueryError → String
  | .unrecognized start => "Unrecognized operator at: " ++ Text.quote start
  | .malformed reason => "Malformed clause: " ++ reason.message
  | .mismatch reason => "Type mismatch: " ++ reason.message

def isSyntaxError : QueryError → Bool
  | .unrecognized _ | .malformed _ => true
  | .mismatch _ => false

end QueryError

end Quarry
