import Quarry.Pattern.Class
import Quarry.Text.Alphanumeric

/-!
Reading a pattern. The groups and alternatives that are still open are kept on a stack, so that the
depth is bounded by the text alone.
-/

namespace Quarry.Pattern

/-- Parts that follow each other, the last one first. -/
structure Sequence where
  start : Nat
  nodes : List Node

def Sequence.add (sequence : Sequence) (node : Node) : Sequence :=
  { sequence with nodes := node :: sequence.nodes }

def Sequence.close (sequence : Sequence) (stop : Nat) : Node :=
  match sequence.nodes with
  | [] => .empty ⟨sequence.start, stop⟩
  | [node] => node
  | nodes => .concatenation ⟨sequence.start, stop⟩ nodes.reverse

inductive Frame where
  /-- A group inside a sequence. Spaces may have counted differently outside of it. -/
  | group (outer : Sequence) (opening : Span) (flags : List FlagItem) (spaced : Bool)
  /-- The alternatives before the last one, in reverse. -/
  | alternatives (start : Nat) (nodes : List Node)

/-- The node up to a place, with the alternatives that come before it. -/
def gather (stack : List Frame) (node : Node) (stop : Nat) : Node × List Frame :=
  match stack with
  | .alternatives start nodes :: stack =>
    (.alternation ⟨start, stop⟩ (node :: nodes).reverse, stack)
  | stack => (node, stack)

/-- The opening of a group, or flags for the rest of the group around them. -/
inductive Opening where
  | group (span : Span) (flags : List FlagItem)
  | flags (span : Span) (flags : List FlagItem)

def isNameStart (c : Char) : Bool :=
  c = '_' || Text.isAlphabetic c

def isNamePart (c : Char) : Bool :=
  c = '_' || c = '.' || c = '[' || c = ']' || Text.isAlphanumeric c

/-- Flags do not match anything, so they cannot be repeated. -/
def Node.isRepeatable : Node → Bool
  | .empty _ | .flags _ _ => false
  | _ => true

namespace Reader

/-- The name of a group up to its closing bracket. -/
def nameLetters (wanted : Char → Bool) : Nat → Reader (List Char)
  | 0 => return []
  | fuel + 1 => do
    match ← next? with
    | none => return []
    | some c =>
      if c = '>' then return []
      else if wanted c then
        advance
        return c :: (← nameLetters isNamePart fuel)
      else failAtNext .invalidGroupName

def groupName : Reader Unit := do
  let start ← place
  let name ← nameLetters isNameStart (← get).rest.length
  if (← next?).isNone then failHere .unclosedGroupName
  let span ← since start
  advance
  if name.isEmpty then fail .emptyGroupName ⟨start, start⟩
  match (← get).names.lookup name with
  | some earlier => throw ⟨.duplicateGroupName, span, some earlier⟩
  | none => modify fun cursor => { cursor with names := (name, span) :: cursor.names }

def flagItem (c : Char) : Reader FlagItem := do
  if c = '-' then return .negation
  else
    match Flag.ofLetter? c with
    | none => failAtNext .unknownFlag
    | some flag => return .flag flag

/-- Flags up to a colon or a closing parenthesis, with those before them and their spans. -/
def flagsFrom : Nat → List (FlagItem × Span) → Reader (List (FlagItem × Span))
  | 0, items => return items
  | fuel + 1, items => do
    match ← next? with
    | none => failHere .unfinishedFlags
    | some c =>
      if c = ':' || c = ')' then return items
      else
        let item ← flagItem c
        let span ← nextSpan
        match items.lookup item with
        | some earlier =>
          let problem : Problem := if item = .negation then .repeatedNegation else .duplicateFlag
          throw ⟨problem, span, some earlier⟩
        | none =>
          advance
          flagsFrom fuel (items ++ [(item, span)])

def flags : Reader (List FlagItem) := do
  let items ← flagsFrom ((← get).rest.length + 1) []
  match items.getLast? with
  | some (.negation, span) => fail .danglingNegation span
  | _ => return items.map Prod.fst

/-- The opening of a group, from its parenthesis on. -/
def opening : Reader Opening := do
  let start ← place
  let span ← nextSpan
  let _ ← advanceSpaced
  if ← skipAny? ["?=", "?!", "?<=", "?<!"] then
    failSince .lookAround start
  let inner ← since (← place)
  if ← skipAny? ["?P<", "?<"] then
    groupName
    return .group span []
  else if ← skip? "?" then
    if (← next?).isNone then fail .unclosedGroup span
    let items ← flags
    let isClosed := (← next?) = some ')'
    advance
    if !isClosed then return .group span items
    else if items.isEmpty then fail .missingOperand inner
    else return .flags (← since start) items
  else return .group span []

/-- The last part of a sequence, which is to be repeated, and the sequence before it. -/
def operand (sequence : Sequence) : Reader (Node × Sequence) := do
  match sequence.nodes with
  | [] => failHere .missingOperand
  | node :: nodes =>
    if node.isRepeatable then return (node, { sequence with nodes }) else failHere .missingOperand

/-- Past a question mark, which makes a repetition take as little as it can. -/
def greed : Reader Bool := do
  return !(← skip? "?")

def repeated (node : Node) (least : Nat) (most : Option Nat) (greedy : Bool) : Reader Node := do
  return .repetition (← since node.span.start) ⟨least, most, greedy⟩ node

def uncounted (least : Nat) (most : Option Nat) (sequence : Sequence) : Reader Sequence := do
  let (node, sequence) ← operand sequence
  advance
  let greedy ← greed
  return sequence.add (← repeated node least most greedy)

/-- A number of 32 bits, or what is wrong with it and where. -/
def decimal : Reader (Except (Problem × Span) Nat) := do
  modify fun cursor => cursor.drop (cursor.rest.takeWhile Text.isBlank).length
  let start ← place
  let digits ← collectWhile Char.isDigit
  let span ← since start
  let _ ← collectWhile Text.isBlank
  match Integer.ofDigits? digits with
  | none => return .error (.emptyCount, span)
  | some number =>
    return if number < 4294967296 then .ok number else .error (.invalidDecimal, span)

def failing {α : Type} : Except (Problem × Span) α → Reader α
  | .error (problem, span) => fail problem span
  | .ok value => return value

/-- The counts between braces, behind the opening one, which stands at a place. -/
def counts (brace : Nat) : Reader (Nat × Option Nat) := do
  let least ← decimal
  match ← next? with
  | none => failSince .unclosedCount brace
  | some ',' =>
    match ← advanceSpaced with
    | none => failSince .unclosedCount brace
    | some '\x7d' => return (← failing least, none)
    | some _ =>
      let least ← failing least
      let most ← failing (← decimal)
      return (least, some most)
  | some _ =>
    let least ← failing least
    return (least, some least)

def counted (sequence : Sequence) : Reader Sequence := do
  let brace ← place
  let (node, sequence) ← operand sequence
  if (← advanceSpaced).isNone then failSince .unclosedCount brace
  let (least, most) ← counts brace
  if (← next?) ≠ some '\x7d' then failSince .unclosedCount brace
  let _ ← advanceSpaced
  let greedy ← greed
  if most.any (· < least) then failSince .invalidCount brace
  return sequence.add (← repeated node least most greedy)

/-- A part that is one character long, or an escape. -/
def single (c : Char) : Reader Node := do
  if c = '\\' then escape
  else
    let span ← nextSpan
    advance
    match c with
    | '.' => return .dot span
    | '^' => return .assertion span .lineStart
    | '$' => return .assertion span .lineEnd
    | c => return .literal ⟨span, c, false⟩

def openGroup (stack : List Frame) (sequence : Sequence) : Reader (List Frame × Sequence) := do
  let spaced := (← get).spaced
  match ← opening with
  | .flags span items =>
    modify fun cursor => { cursor with spaced := (Flag.spaced.setting? items).getD spaced }
    return (stack, sequence.add (.flags span items))
  | .group span items =>
    modify fun cursor => { cursor with spaced := (Flag.spaced.setting? items).getD spaced }
    return (.group sequence span items spaced :: stack, ⟨← place, []⟩)

def closeGroup (stack : List Frame) (sequence : Sequence) : Reader (List Frame × Sequence) := do
  let stop ← place
  let (node, below) := gather stack (sequence.close stop) stop
  match below with
  | .group outer opening items spaced :: below =>
    modify fun cursor => { cursor with spaced }
    advance
    return (below, outer.add (.group (← since opening.start) items node))
  | _ => failAtNext .unopenedGroup

def nextAlternative (stack : List Frame) (sequence : Sequence) : Reader (List Frame × Sequence) := do
  let node := sequence.close (← place)
  advance
  let stack := match stack with
    | .alternatives start nodes :: stack => .alternatives start (node :: nodes) :: stack
    | stack => .alternatives sequence.start [node] :: stack
  return (stack, ⟨← place, []⟩)

def finish (stack : List Frame) (sequence : Sequence) : Reader Node := do
  let stop ← place
  match gather stack (sequence.close stop) stop with
  | (node, []) => return node
  | (_, .group _ opening _ _ :: _) => fail .unclosedGroup opening
  | (node, .alternatives _ _ :: _) => return node

/-- The next part, which starts with a character. -/
def step (stack : List Frame) (sequence : Sequence) (c : Char) : Reader (List Frame × Sequence) := do
  match c with
  | '(' => openGroup stack sequence
  | ')' => closeGroup stack sequence
  | '|' => nextAlternative stack sequence
  | '[' => return (stack, sequence.add (← bracketed))
  | '?' => return (stack, ← uncounted 0 (some 1) sequence)
  | '*' => return (stack, ← uncounted 0 none sequence)
  | '+' => return (stack, ← uncounted 1 none sequence)
  | '\x7b' => return (stack, ← counted sequence)
  | c => return (stack, sequence.add (← single c))

/-- The rest of a pattern with what was read so far. Each step takes a character at least. -/
def nodeFrom : Nat → List Frame → Sequence → Reader Node
  | 0, stack, sequence => finish stack sequence
  | fuel + 1, stack, sequence => do
    skipSpace
    match ← next? with
    | none => finish stack sequence
    | some c =>
      let (stack, sequence) ← step stack sequence c
      nodeFrom fuel stack sequence

end Reader

def Node.ofText (pattern : List Char) : Except Error Node :=
  (Reader.nodeFrom (pattern.length + 1) [] ⟨0, []⟩).run' (.start pattern)

end Quarry.Pattern
