import Quarry.Pattern.Depth
import Quarry.Pattern.Reader
import Quarry.Pattern.Support

/-!
Whether a text is a pattern that can be matched, and if not, why, from the outermost cause inwards.
-/

namespace Quarry.Pattern

inductive Refusal where
  /-- The pattern, and what is wrong with it. -/
  | invalid (pattern : List Char) (error : Error)
  /-- A boundary of words among all characters. -/
  | unicodeBoundary
  deriving DecidableEq, Repr

def Refusal.message : Refusal → String
  | .invalid _ _ => "error building NFA"
  | .unicodeBoundary =>
    "unsupported regex feature for DFAs: cannot build DFAs for regexes with Unicode word " ++
      "boundaries; switch to ASCII word boundaries, or heuristically enable Unicode word " ++
      "boundaries or use a different regex engine"

def Refusal.causes (refusal : Refusal) : List String :=
  match refusal with
  | .invalid pattern error => [refusal.message, "error parsing regex", error.report pattern]
  | .unicodeBoundary => [refusal.message]

/-- The depth of a pattern is looked at when all of it was read, and what the matcher can do after
that. -/
def survey (pattern : List Char) : Except Error Survey := do
  let node ← Node.ofText pattern
  node.checkDepth 0
  node.survey .start

def check (pattern : List Char) : Except Refusal Unit :=
  match survey pattern with
  | .error error => .error (.invalid pattern error)
  | .ok survey => if survey.unicodeBoundary then .error .unicodeBoundary else .ok ()

end Quarry.Pattern
