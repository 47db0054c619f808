import Quarry.Pattern.Error

/-!
What the matcher can do with a pattern. It works on characters, or on bytes where the flag for Unicode
is cleared, and then only if nothing but valid UTF-8 can match. It knows the classes and the case of
ASCII alone, so that properties, the classes known by a letter and a match that ignores case are refused
on characters. Boundaries of words among all characters are found here and refused later, after
everything that can be shown in the pattern.
-/

namespace Quarry.Pattern

structure Modes where
  unicode : Bool
  ignoreCase : Bool
  deriving DecidableEq, Repr

def Modes.set (modes : Modes) (flags : List FlagItem) : Modes where
  unicode := (Flag.unicode.setting? flags).getD modes.unicode
  ignoreCase := (Flag.ignoreCase.setting? flags).getD modes.ignoreCase

/-- As much as must be known about a set of characters to tell whether it would have to be extended by
the other cases of its characters: nothing and everything would not. -/
inductive Extent where
  | nothing
  | everything
  | other
  deriving DecidableEq, Repr

namespace Extent

def complement : Extent → Extent
  | .nothing => .everything
  | .everything => .nothing
  | .other => .other

def union : Extent → Extent → Extent
  | .nothing, right => right
  | left, .nothing => left
  | .everything, .everything => .everything
  | _, _ => .other

def combine (operation : SetOperation) (left right : Extent) : Extent :=
  match operation, left, right with
  | _, .other, _ | _, _, .other => .other
  | .intersection, .everything, right => right
  | .intersection, .nothing, _ => .nothing
  | .difference, .everything, right => right.complement
  | .difference, .nothing, _ => .nothing
  | .symmetricDifference, .everything, right => right.complement
  | .symmetricDifference, .nothing, right => right

end Extent

namespace Modes

variable (modes : Modes)

def refuse {α : Type} (problem : Problem) (span : Span) : Except Error α :=
  .error ⟨problem, span, none⟩

/-- A code in two digits stands for a byte where the pattern works on bytes. -/
def checkByte (literal : Literal) : Except Error Unit :=
  if !modes.unicode && literal.isByte && 0x80 ≤ literal.char.toNat then
    refuse .invalidBytes literal.span
  else .ok ()

def checkLiteral (literal : Literal) : Except Error Unit := do
  modes.checkByte literal
  if modes.unicode && modes.ignoreCase then refuse .ignoreCaseUnavailable literal.span

def checkClassLiteral (literal : Literal) : Except Error Unit := do
  modes.checkByte literal
  if !modes.unicode && 0x80 ≤ literal.char.toNat then refuse .unicodeNotAllowed literal.span

def checkDot (span : Span) : Except Error Unit :=
  if modes.unicode then .ok () else refuse .invalidBytes span

def checkProperty {α : Type} (span : Span) : Except Error α :=
  refuse (if modes.unicode then .unknownProperty else .unicodeNotAllowed) span

/-- The complement of a set of ASCII bytes holds bytes that are not valid on their own. -/
def checkLettered (span : Span) (letter : Char) : Except Error Unit :=
  if modes.unicode then refuse .unknownLetteredClass span
  else if letter.isUpper then refuse .invalidBytes span
  else .ok ()

def extend (span : Span) (extent : Extent) : Except Error Unit :=
  if modes.unicode && modes.ignoreCase && extent = .other then refuse .ignoreCaseUnavailable span
  else .ok ()

/-- The extent of a class whose items have an extent. -/
def close (span : Span) (negated : Bool) (extent : Extent) : Except Error Extent := do
  modes.extend span extent
  if !negated then return extent
  else if modes.unicode then return extent.complement
  else refuse .invalidBytes span

end Modes

mutual

def ClassItem.extent (modes : Modes) : ClassItem → Except Error Extent
  | .literal value => do
    modes.checkClassLiteral value
    return .other
  | .range _ first last => do
    modes.checkClassLiteral first
    modes.checkClassLiteral last
    return .other
  | .named span negated _ => modes.close span negated .other
  | .property span _ _ => modes.checkProperty span
  | .lettered span letter => do
    modes.checkLettered span letter
    return .other
  | .nested span negated content => do
    modes.close span negated (← content.extent modes)

def ClassSet.extent (modes : Modes) : ClassSet → Except Error Extent
  | .union _ items => ClassItem.extents modes items
  | .operation _ operation left right => do
    let leftExtent ← left.extent modes
    let rightExtent ← right.extent modes
    modes.extend right.span rightExtent
    modes.extend left.span leftExtent
    return .combine operation leftExtent rightExtent

def ClassItem.extents (modes : Modes) : List ClassItem → Except Error Extent
  | [] => .ok .nothing
  | item :: items => do
    let first ← item.extent modes
    return first.union (← ClassItem.extents modes items)

end

/-- What a part of a pattern leaves for the parts behind it: the modes, and whether a boundary of words
among all characters was met. -/
structure Survey where
  modes : Modes
  unicodeBoundary : Bool
  deriving DecidableEq, Repr

def Survey.start : Survey := ⟨⟨true, false⟩, false⟩

def Survey.assertion (survey : Survey) (assertion : Assertion) : Survey :=
  match assertion with
  | .boundary _ =>
    { survey with unicodeBoundary := survey.unicodeBoundary || survey.modes.unicode }
  | _ => survey

mutual

def Node.survey (survey : Survey) : Node → Except Error Survey
  | .empty _ => .ok survey
  | .flags _ items => .ok { survey with modes := survey.modes.set items }
  | .literal value => do
    survey.modes.checkLiteral value
    return survey
  | .dot span => do
    survey.modes.checkDot span
    return survey
  | .assertion _ kind => .ok (survey.assertion kind)
  | .property span _ _ => survey.modes.checkProperty span
  | .lettered span letter => do
    survey.modes.checkLettered span letter
    return survey
  | .bracketed span negated content => do
    let _ ← survey.modes.close span negated (← content.extent survey.modes)
    return survey
  | .repetition _ counts node => do
    let after ← node.survey survey
    -- What is repeated zero times is left out.
    return if counts.most = some 0 then { after with unicodeBoundary := survey.unicodeBoundary }
      else after
  | .group _ items node => do
    let after ← node.survey { survey with modes := survey.modes.set items }
    return { after with modes := survey.modes }
  | .alternation _ nodes => Node.surveys survey nodes
  | .concatenation _ nodes => Node.surveys survey nodes

def Node.surveys (survey : Survey) : List Node → Except Error Survey
  | [] => .ok survey
  | node :: nodes => do
    Node.surveys (← node.survey survey) nodes

end

end Quarry.Pattern
