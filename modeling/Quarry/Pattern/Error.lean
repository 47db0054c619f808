import Quarry.Pattern.Basic
import Quarry.Text.Split

/-!
Why a pattern is refused, and the report of it: the pattern with carets under the places in
question, and the complaint. The lines of a pattern of several lines are numbered and stand between
two rules.
-/

namespace Quarry.Pattern

/-- The depth to which the parts of a pattern may be nested. -/
def depthLimit : Nat := 250

inductive Problem where
  | invalidClassEscape
  | invalidRange
  | rangeBoundary
  | unclosedClass
  | invalidDecimal
  | emptyHexadecimal
  | invalidHexadecimal
  | invalidHexadecimalDigit
  | unfinishedEscape
  | unknownEscape
  | danglingNegation
  | duplicateFlag
  | repeatedNegation
  | unfinishedFlags
  | unknownFlag
  | duplicateGroupName
  | emptyGroupName
  | invalidGroupName
  | unclosedGroupName
  | unclosedGroup
  | unopenedGroup
  | tooDeep
  | invalidCount
  | emptyCount
  | unclosedCount
  | missingOperand
  | unclosedBoundary
  | unknownBoundary
  | unfinishedBoundary
  | invalidPropertyLetter
  | backreference
  | lookAround
  | unicodeNotAllowed
  | invalidBytes
  | unknownProperty
  | unknownLetteredClass
  | ignoreCaseUnavailable
  deriving DecidableEq, Repr

def Problem.message : Problem → String
  | .invalidClassEscape => "invalid escape sequence found in character class"
  | .invalidRange => "invalid character class range, the start must be <= the end"
  | .rangeBoundary => "invalid range boundary, must be a literal"
  | .unclosedClass => "unclosed character class"
  | .invalidDecimal => "decimal literal invalid"
  | .emptyHexadecimal => "hexadecimal literal empty"
  | .invalidHexadecimal => "hexadecimal literal is not a Unicode scalar value"
  | .invalidHexadecimalDigit => "invalid hexadecimal digit"
  | .unfinishedEscape => "incomplete escape sequence, reached end of pattern prematurely"
  | .unknownEscape => "unrecognized escape sequence"
  | .danglingNegation => "dangling flag negation operator"
  | .duplicateFlag => "duplicate flag"
  | .repeatedNegation => "flag negation operator repeated"
  | .unfinishedFlags => "expected flag but got end of regex"
  | .unknownFlag => "unrecognized flag"
  | .duplicateGroupName => "duplicate capture group name"
  | .emptyGroupName => "empty capture group name"
  | .invalidGroupName => "invalid capture group character"
  | .unclosedGroupName => "unclosed capture group name"
  | .unclosedGroup => "unclosed group"
  | .unopenedGroup => "unopened group"
  | .tooDeep =>
    "exceed the maximum number of nested parentheses/brackets (" ++ toString depthLimit ++ ")"
  | .invalidCount => "invalid repetition count range, the start must be <= the end"
  | .emptyCount => "repetition quantifier expects a valid decimal"
  | .unclosedCount => "unclosed counted repetition"
  | .missingOperand => "repetition operator missing expression"
  | .unclosedBoundary =>
    "special word boundary assertion is either unclosed or contains an invalid character"
  | .unknownBoundary =>
    "unrecognized special word boundary assertion, valid choices are: start, end, " ++
      "start-half or end-half"
  | .unfinishedBoundary =>
    "found either the beginning of a special word boundary or a bounded repetition on a \\b " ++
      "with an opening brace, but no closing brace"
  | .invalidPropertyLetter => "invalid Unicode character class"
  | .backreference => "backreferences are not supported"
  | .lookAround => "look-around, including look-ahead and look-behind, is not supported"
  | .unicodeNotAllowed => "Unicode not allowed here"
  | .invalidBytes => "pattern can match invalid UTF-8"
  | .unknownProperty => "Unicode property not found"
  | .unknownLetteredClass =>
    "Unicode-aware Perl class not found (make sure the unicode-perl feature is enabled)"
  | .ignoreCaseUnavailable =>
    "Unicode-aware case insensitivity matching is not available " ++
      "(make sure the unicode-case feature is enabled)"

structure Error where
  problem : Problem
  span : Span
  /-- What the span is in conflict with. -/
  earlier : Option Span
  deriving DecidableEq, Repr

namespace Error

def spans (error : Error) : List Span :=
  match error.earlier with
  | none => [error.span]
  | some span =>
    if span.start < error.span.start ||
        (span.start = error.span.start && span.stop ≤ error.span.stop) then
      [span, error.span]
    else [error.span, span]

/-- The lines of a pattern. A line break at the end does not start another one. -/
def lines (pattern : List Char) : List (List Char) :=
  let pieces := Text.splitAt '\n' pattern
  let ended := pieces.dropLast.map fun line =>
    if line.getLast? = some '\r' then line.dropLast else line
  match pieces.getLast? with
  | none | some [] => ended
  | some last => ended ++ [last]

/-- The line and the column of a place, both counted from one. -/
def position (pattern : List Char) (place : Nat) : Nat × Nat :=
  let before := Text.splitAt '\n' (pattern.take place)
  (before.length, (before.getLast?.getD []).length + 1)

/-- Carets under spans of one line, in order. There is at least one caret for each. -/
def carets (column : Nat) : List (Nat × Nat) → List Char
  | [] => []
  | (start, stop) :: columns =>
    let count := max 1 (stop - start)
    let blanks := start - column
    List.replicate blanks ' ' ++ List.replicate count '^' ++
      carets (column + blanks + count) columns

/-- The columns of the spans that lie within a line. -/
def columnsOn (pattern : List Char) (spans : List Span) (line : Nat) : List (Nat × Nat) :=
  spans.filterMap fun span =>
    let start := position pattern span.start
    let stop := position pattern span.stop
    if start.1 = line && stop.1 = line then some (start.2, stop.2) else none

/-- The notes on the spans that reach over several lines. -/
def lineNotes (pattern : List Char) (spans : List Span) : List String :=
  spans.filterMap fun span =>
    let start := position pattern span.start
    let stop := position pattern span.stop
    if start.1 = stop.1 then none
    else some <| "on line " ++ toString start.1 ++ " (column " ++ toString start.2 ++
      ") through line " ++ toString stop.1 ++ " (column " ++ toString (stop.2 - 1) ++ ")"

def padded (width number : Nat) : String :=
  let digits := toString number
  String.ofList (List.replicate (width - digits.length) ' ') ++ digits

/-- The pattern with its carets, line by line. -/
def annotated (pattern : List Char) (spans : List Span) : List String :=
  let count := (Text.splitAt '\n' pattern).length
  let width := if count ≤ 1 then 0 else (toString count).length
  let margin := if count ≤ 1 then 4 else width + 2
  ((lines pattern).zipIdx 1).flatMap fun (line, number) =>
    let label := if count ≤ 1 then "    " else padded width number ++ ": "
    (label ++ String.ofList line) ::
      match columnsOn pattern spans number with
      | [] => []
      | columns => [String.ofList (List.replicate margin ' ' ++ carets 1 columns)]

def report (pattern : List Char) (error : Error) : String :=
  let shown := annotated pattern error.spans
  let rule := String.ofList (List.replicate 79 '~')
  let body :=
    if pattern.contains '\n' then [rule] ++ shown ++ [rule] ++ lineNotes pattern error.spans
    else shown
  String.intercalate "\n" ("regex parse error:" :: body ++ ["error: " ++ error.problem.message])

end Error

end Quarry.Pattern
