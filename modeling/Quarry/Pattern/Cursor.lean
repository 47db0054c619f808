import Quarry.Pattern.Error
import Quarry.Text.Blank

/-!
A place in the text of a pattern, and the moves that the readers of its parts are made of. Moving on
over spaces and comments does nothing unless the pattern is spaced.
-/

namespace Quarry.Pattern

structure Cursor where
  rest : List Char
  place : Nat
  spaced : Bool
  /-- The names of groups met so far, and where they stand. -/
  names : List (List Char × Span)
  deriving DecidableEq, Repr

abbrev Reader (α : Type) := StateT Cursor (Except Error) α

/-- What is left behind spaces and comments. A comment ends with its line. -/
def skipSpaced (inComment : Bool) (text : List Char) : List Char :=
  match text with
  | [] => []
  | c :: rest =>
    if inComment then skipSpaced (c ≠ '\n') rest
    else if Text.isBlank c then skipSpaced false rest
    else if c = '#' then skipSpaced true rest
    else c :: rest

namespace Cursor

def start (pattern : List Char) : Cursor := ⟨pattern, 0, false, []⟩

/-- Past a number of characters. -/
def drop (cursor : Cursor) (count : Nat) : Cursor :=
  let rest := cursor.rest.drop count
  { cursor with rest, place := cursor.place + (cursor.rest.length - rest.length) }

def skipSpace (cursor : Cursor) : Cursor :=
  if cursor.spaced then
    cursor.drop (cursor.rest.length - (skipSpaced false cursor.rest).length)
  else cursor

end Cursor

namespace Reader

def next? : Reader (Option Char) := return (← get).rest.head?

def place : Reader Nat := return (← get).place

def advance : Reader Unit := modify fun cursor => cursor.drop 1

def skipSpace : Reader Unit := modify Cursor.skipSpace

/-- Past a character and the spaces behind it, to the next character. -/
def advanceSpaced : Reader (Option Char) := do
  advance
  skipSpace
  next?

/-- Past a text if it comes next. -/
def skip? (text : String) : Reader Bool := do
  if text.toList.isPrefixOf (← get).rest then
    modify fun cursor => cursor.drop text.length
    return true
  else return false

/-- Past the first of some texts that comes next, if any does. -/
def skipAny? : List String → Reader Bool
  | [] => return false
  | text :: texts => do
    if ← skip? text then return true else skipAny? texts

/-- The span from a place up to here. -/
def since (start : Nat) : Reader Span := return ⟨start, ← place⟩

/-- The span of the next character. -/
def nextSpan : Reader Span := return ⟨← place, (← place) + 1⟩

def fail {α : Type} (problem : Problem) (span : Span) : Reader α :=
  throw ⟨problem, span, none⟩

def failHere {α : Type} (problem : Problem) : Reader α := do fail problem (← since (← place))

def failAtNext {α : Type} (problem : Problem) : Reader α := do fail problem (← nextSpan)

def failSince {α : Type} (problem : Problem) (start : Nat) : Reader α := do
  fail problem (← since start)

/-- The characters up to the first that is not wanted, with the spaces between them passed over. -/
def collect (wanted : Char → Bool) : Nat → Reader (List Char)
  | 0 => return []
  | fuel + 1 => do
    match ← next? with
    | none => return []
    | some c =>
      if wanted c then
        let _ ← advanceSpaced
        return c :: (← collect wanted fuel)
      else return []

def collectWhile (wanted : Char → Bool) : Reader (List Char) := do
  collect wanted (← get).rest.length

end Reader

end Quarry.Pattern
