/-!
Patterns of text: literals, classes of characters, assertions, repetitions, groups and alternatives.
Every part knows the span of the text that it was read from, so that a complaint about it can be
shown there.
-/

namespace Quarry.Pattern

/-- The places from `start` on and before `stop`, counted in characters. -/
structure Span where
  start : Nat
  stop : Nat
  deriving DecidableEq, Repr

inductive Flag where
  | ignoreCase
  | multiLine
  | dotMatchesLineEnd
  | swapGreed
  | unicode
  | carriageReturn
  /-- Spaces and comments between the parts of a pattern do not count. -/
  | spaced
  deriving DecidableEq, Repr

def Flag.ofLetter? : Char → Option Flag
  | 'i' => some .ignoreCase
  | 'm' => some .multiLine
  | 's' => some .dotMatchesLineEnd
  | 'U' => some .swapGreed
  | 'u' => some .unicode
  | 'R' => some .carriageReturn
  | 'x' => some .spaced
  | _ => none

inductive FlagItem where
  /-- The flags after it are cleared. -/
  | negation
  | flag (flag : Flag)
  deriving DecidableEq, Repr

/-- What a list of flags says about one of them, if anything. -/
def Flag.setting? (wanted : Flag) : List FlagItem → Option Bool
  | [] => none
  | .negation :: items => if items.contains (.flag wanted) then some false else none
  | .flag flag :: items => if flag = wanted then some true else wanted.setting? items

structure Literal where
  span : Span
  char : Char
  /-- Written as two hexadecimal digits, so that it may stand for a byte. -/
  isByte : Bool
  deriving DecidableEq, Repr

inductive Boundary where
  | word
  | notWord
  | wordStart
  | wordEnd
  | wordStartHalf
  | wordEndHalf
  deriving DecidableEq, Repr

inductive Assertion where
  | lineStart
  | lineEnd
  | textStart
  | textEnd
  | boundary (boundary : Boundary)
  deriving DecidableEq, Repr

inductive SetOperation where
  | intersection
  | difference
  | symmetricDifference
  deriving DecidableEq, Repr

mutual

/-- A part of a class of characters. -/
inductive ClassItem where
  | literal (literal : Literal)
  | range (span : Span) (first last : Literal)
  /-- A class of ASCII characters known by name. -/
  | named (span : Span) (negated : Bool) (name : String)
  | property (span : Span) (negated : Bool) (name : String)
  /-- A class known by a letter: digits, spaces or word characters. -/
  | lettered (span : Span) (letter : Char)
  | nested (span : Span) (negated : Bool) (content : ClassSet)

inductive ClassSet where
  | union (span : Span) (items : List ClassItem)
  | operation (span : Span) (operation : SetOperation) (left right : ClassSet)

end

structure Repetition where
  least : Nat
  most : Option Nat
  greedy : Bool
  deriving DecidableEq, Repr

inductive Node where
  | empty (span : Span)
  | flags (span : Span) (items : List FlagItem)
  | literal (literal : Literal)
  | dot (span : Span)
  | assertion (span : Span) (assertion : Assertion)
  | property (span : Span) (negated : Bool) (name : String)
  | lettered (span : Span) (letter : Char)
  | bracketed (span : Span) (negated : Bool) (content : ClassSet)
  | repetition (span : Span) (repetition : Repetition) (node : Node)
  | group (span : Span) (flags : List FlagItem) (node : Node)
  | alternation (span : Span) (nodes : List Node)
  | concatenation (span : Span) (nodes : List Node)

def ClassItem.span : ClassItem → Span
  | .literal value => value.span
  | .range span _ _ | .named span _ _ | .property span _ _ | .lettered span _
  | .nested span _ _ => span

def ClassSet.span : ClassSet → Span
  | .union span _ | .operation span _ _ _ => span

def Node.span : Node → Span
  | .literal value => value.span
  | .empty span | .flags span _ | .dot span | .assertion span _ | .property span _ _
  | .lettered span _ | .bracketed span _ _ | .repetition span _ _ | .group span _ _
  | .alternation span _ | .concatenation span _ => span

end Quarry.Pattern
