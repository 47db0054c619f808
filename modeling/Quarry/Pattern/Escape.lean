import Quarry.Pattern.Cursor
import Quarry.Number.Integer

/-!
Escapes, which start with a backslash: a character that would mean something else, or that is given by
a letter or its code; a class of characters; or an assertion.
-/

namespace Quarry.Pattern

/-- Whether a character stands for itself behind a backslash. Letters and digits are kept for other
uses, and so are the two angle brackets. -/
def isSelfEscape (c : Char) : Bool :=
  c.toNat < 128 && !c.isAlphanum && c ≠ '<' && c ≠ '>'

/-- The control characters that have a letter. -/
def controlOfLetter? : Char → Option Char
  | 'a' => some '\x07'
  | 'f' => some '\x0c'
  | 't' => some '\t'
  | 'n' => some '\n'
  | 'r' => some '\r'
  | 'v' => some '\x0b'
  | _ => none

def assertionOfLetter? : Char → Option Assertion
  | 'A' => some .textStart
  | 'z' => some .textEnd
  | 'B' => some (.boundary .notWord)
  | '<' => some (.boundary .wordStart)
  | '>' => some (.boundary .wordEnd)
  | _ => none

def boundaryOfName? (name : List Char) : Option Boundary :=
  match String.ofList name with
  | "start" => some .wordStart
  | "end" => some .wordEnd
  | "start-half" => some .wordStartHalf
  | "end-half" => some .wordEndHalf
  | _ => none

def hexadecimalDigit? (c : Char) : Option Nat :=
  if c.isDigit then some (c.toNat - '0'.toNat)
  else if 'a' ≤ c ∧ c ≤ 'f' then some (c.toNat - 'a'.toNat + 10)
  else if 'A' ≤ c ∧ c ≤ 'F' then some (c.toNat - 'A'.toNat + 10)
  else none

def isHexadecimalDigit (c : Char) : Bool :=
  (hexadecimalDigit? c).isSome

/-- The character with the code that the digits give, if there is one. -/
def charOfDigits? (digits : List Char) : Option Char :=
  let code := digits.foldl (fun code digit => 16 * code + (hexadecimalDigit? digit).getD 0) 0
  if code.isValidChar then some (Char.ofNat code) else none

namespace Reader

/-- A fixed number of hexadecimal digits. -/
def fixedDigits : Nat → Reader (List Char)
  | 0 => return []
  | count + 1 => do
    match ← next? with
    | none => failHere .unfinishedEscape
    | some c =>
      if isHexadecimalDigit c then
        let _ ← advanceSpaced
        return c :: (← fixedDigits count)
      else failAtNext .invalidHexadecimalDigit

/-- The hexadecimal digits between braces, behind the opening one. -/
def bracedDigits (brace : Nat) : Reader (List Char) := do
  let digits ← collectWhile isHexadecimalDigit
  match ← next? with
  | none => failSince .unfinishedEscape brace
  | some c =>
    if c = '\x7d' then return digits else failAtNext .invalidHexadecimalDigit

/-- A character given by its code, behind the letter that announces it. -/
def hexadecimal (start count : Nat) : Reader Node := do
  let first ← place
  match ← next? with
  | none => failHere .unfinishedEscape
  | some '\x7b' =>
    let _ ← advanceSpaced
    let digits ← bracedDigits first
    let inner : Span := ⟨first + 1, ← place⟩
    let _ ← advanceSpaced
    if digits.isEmpty then failSince .emptyHexadecimal first
    else
      match charOfDigits? digits with
      | none => fail .invalidHexadecimal inner
      | some char => return .literal ⟨← since start, char, false⟩
  | some _ =>
    let digits ← fixedDigits count
    match charOfDigits? digits with
    | none => failSince .invalidHexadecimal first
    | some char => return .literal ⟨← since start, char, count = 2⟩

/-- A property of characters, behind the letter that announces it. -/
def property (start : Nat) (negated : Bool) : Reader Node := do
  match ← next? with
  | none => failHere .unfinishedEscape
  | some '\x7b' =>
    let _ ← advanceSpaced
    let name ← collectWhile (· ≠ '\x7d')
    if (← next?).isNone then failHere .unfinishedEscape
    else
      advance
      return .property (← since start) negated (String.ofList name)
  | some c =>
    if c = '\\' then failAtNext .invalidPropertyLetter
    else
      let _ ← advanceSpaced
      return .property (← since start) negated c.toString

def isBoundaryLetter (c : Char) : Bool :=
  c.isAlpha || c = '-'

/-- The name of a boundary in braces, before the opening one. Something else than a letter behind that
brace makes it the brace of a repetition, which is left to be read. -/
def boundaryName? (start : Nat) : Reader (Option Boundary) := do
  let opening ← get
  match ← advanceSpaced with
  | none => failSince .unfinishedBoundary start
  | some c =>
    if isBoundaryLetter c then
      let first ← place
      let name ← collectWhile isBoundaryLetter
      if (← next?) = some '\x7d' then
        let inner ← since first
        advance
        match boundaryOfName? name with
        | none => fail .unknownBoundary inner
        | some boundary => return some boundary
      else failSince .unclosedBoundary opening.place
    else
      set opening
      return none

def wordBoundary (start : Nat) : Reader Node := do
  let plain ← since start
  let named ← if (← next?) = some '\x7b' then boundaryName? start else pure none
  match named with
  | none => return .assertion plain (.boundary .word)
  | some boundary => return .assertion (← since start) (.boundary boundary)

/-- An escape whose letter was passed. -/
def letterEscape (start : Nat) (letter : Char) : Reader Node := do
  let span ← since start
  match controlOfLetter? letter, assertionOfLetter? letter with
  | some char, _ => return .literal ⟨span, char, false⟩
  | none, some assertion => return .assertion span assertion
  | none, none =>
    if isSelfEscape letter then return .literal ⟨span, letter, false⟩
    else if letter = 'b' then wordBoundary start
    else fail .unknownEscape span

/-- An escape, from its backslash on. -/
def escape : Reader Node := do
  let start ← place
  advance
  match ← next? with
  | none => failSince .unfinishedEscape start
  | some letter =>
    if letter.isDigit then fail .backreference ⟨start, (← place) + 1⟩
    else if letter = 'x' || letter = 'u' || letter = 'U' then
      let _ ← advanceSpaced
      hexadecimal start (if letter = 'x' then 2 else if letter = 'u' then 4 else 8)
    else if letter = 'p' || letter = 'P' then
      let _ ← advanceSpaced
      property start (letter = 'P')
    else if "dswDSW".toList.contains letter then
      advance
      return .lettered (← since start) letter
    else
      advance
      letterEscape start letter

end Reader

end Quarry.Pattern
