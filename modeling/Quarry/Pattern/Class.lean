import Quarry.Pattern.Escape

/-!
Classes of characters in brackets: single characters, ranges, named classes and nested classes,
joined and combined by operations. The classes and operations that are still open are kept on a
stack, so that the depth is bounded by the text alone.
-/

namespace Quarry.Pattern

/-- The items of a class between two operations, the last one first. -/
structure ItemList where
  /-- Where the first item stands, or would stand. -/
  start : Nat
  items : List ClassItem

def ItemList.add (list : ItemList) (item : ClassItem) : ItemList :=
  { list with items := item :: list.items }

def ItemList.toSet (list : ItemList) : ClassSet :=
  let span : Span :=
    match list.items.getLast?, list.items.head? with
    | some first, some last => ⟨first.span.start, last.span.stop⟩
    | _, _ => ⟨list.start, list.start⟩
  .union span list.items.reverse

inductive ClassFrame where
  /-- A class inside that of the items, whose opening has a span. -/
  | class (outer : ItemList) (opening : Span) (negated : Bool)
  | operation (operation : SetOperation) (left : ClassSet)

/-- The set up to here, with the operation that waits for it. -/
def combine (stack : List ClassFrame) (right : ClassSet) : ClassSet × List ClassFrame :=
  match stack with
  | .operation operation left :: stack =>
    (.operation ⟨left.span.start, right.span.stop⟩ operation left right, stack)
  | stack => (right, stack)

/-- The opening of the innermost class. -/
def innermost? : List ClassFrame → Option Span
  | [] => none
  | .class _ opening _ :: _ => some opening
  | .operation _ _ :: stack => innermost? stack

def asciiClassNames : List String :=
  ["alnum", "alpha", "ascii", "blank", "cntrl", "digit", "graph", "lower", "print", "punct",
    "space", "upper", "word", "xdigit"]

/-- The class item of an escape, of which assertions are none. -/
def Node.toItem? : Node → Option ClassItem
  | .literal value => some (.literal value)
  | .property span negated name => some (.property span negated name)
  | .lettered span letter => some (.lettered span letter)
  | _ => none

def Node.toLiteral? : Node → Option Literal
  | .literal value => some value
  | _ => none

/-- The character that comes after a hyphen, behind spaces and the sign of a comment. -/
def afterHyphen? (spaced : Bool) (text : List Char) : Option Char :=
  if spaced then
    match text.dropWhile Text.isBlank with
    | '#' :: comment => (comment.dropWhile Text.isBlank).head? <|> text.head?
    | [] => text.head?
    | c :: _ => some c
  else text.head?

namespace Reader

def unclosedClass {α : Type} (stack : List ClassFrame) : Reader α := do
  match innermost? stack with
  | none => failHere .unclosedClass
  | some opening => fail .unclosedClass opening

/-- The hyphens at the start of a class, which stand for themselves. -/
def hyphens (opening : Nat) : Nat → ItemList → Reader ItemList
  | 0, list => return list
  | fuel + 1, list => do
    if (← next?) = some '-' then
      let item : ClassItem := .literal ⟨← nextSpan, '-', false⟩
      if (← advanceSpaced).isNone then fail .unclosedClass ⟨opening, opening⟩
      else hyphens opening fuel (list.add item)
    else return list

/-- The opening of a class: its bracket, a caret if it is negated, and the hyphens or the closing
bracket that may come first and stand for themselves. -/
def classOpening (outer : ItemList) : Reader (ClassFrame × ItemList) := do
  let start ← place
  if (← advanceSpaced).isNone then failSince .unclosedClass start
  let negated := (← next?) = some '^'
  if negated then
    if (← advanceSpaced).isNone then failSince .unclosedClass start
  let list ← hyphens start (← get).rest.length ⟨← place, []⟩
  let list ←
    if list.items.isEmpty && (← next?) = some ']' then
      let item : ClassItem := .literal ⟨← nextSpan, ']', false⟩
      if (← advanceSpaced).isNone then failSince .unclosedClass start
      pure (list.add item)
    else pure list
  return (.class outer (← since start) negated, list)

/-- A class such as `[:alpha:]`, if one comes next. -/
def asciiClass? : Reader (Option ClassItem) := do
  let start ← get
  match start.rest with
  | '[' :: ':' :: rest =>
    let (negated, text) := match rest with
      | '^' :: text => (true, text)
      | text => (false, text)
    let letters := text.takeWhile (· ≠ ':')
    let name := String.ofList letters
    match text.dropWhile (· ≠ ':') with
    | ':' :: ']' :: after =>
      if asciiClassNames.contains name then
        set (start.drop (start.rest.length - after.length))
        return some (.named (← since start.place) negated name)
      else return none
    | _ => return none
  | _ => return none

/-- A character of a class or an escape. -/
def classPart : Reader Node := do
  match ← next? with
  | none => failHere .unclosedClass
  | some '\\' => escape
  | some c =>
    let span ← nextSpan
    advance
    return .literal ⟨span, c, false⟩

def boundaryOfRange (node : Node) : Reader Literal :=
  match node.toLiteral? with
  | none => fail .rangeBoundary node.span
  | some value => return value

/-- A part of a class on its own, or a range. A hyphen before the closing bracket or before another
hyphen makes no range. -/
def classRange (stack : List ClassFrame) : Reader ClassItem := do
  let first ← classPart
  skipSpace
  let cursor ← get
  match cursor.rest with
  | [] => unclosedClass stack
  | c :: rest =>
    let after := afterHyphen? cursor.spaced rest
    if c ≠ '-' || after = some ']' || after = some '-' then
      match first.toItem? with
      | none => fail .invalidClassEscape first.span
      | some item => return item
    else if (← advanceSpaced).isNone then unclosedClass stack
    else
      let last ← classPart
      let span : Span := ⟨first.span.start, last.span.stop⟩
      let first ← boundaryOfRange first
      let last ← boundaryOfRange last
      if first.char ≤ last.char then return .range span first last
      else fail .invalidRange span

def setOperation? : Reader (Option SetOperation) := do
  if ← skip? "&&" then return some .intersection
  else if ← skip? "--" then return some .difference
  else if ← skip? "~~" then return some .symmetricDifference
  else return none

/-- The rest of a class with the items and the stack so far. Each step takes at least a
character. -/
def classFrom : Nat → List ClassFrame → ItemList → Reader Node
  | 0, stack, _ => unclosedClass stack
  | fuel + 1, stack, list => do
    skipSpace
    match ← next? with
    | none => unclosedClass stack
    | some '[' =>
      match ← asciiClass? with
      | some item => classFrom fuel stack (list.add item)
      | none =>
        let (frame, inner) ← classOpening list
        classFrom fuel (frame :: stack) inner
    | some ']' =>
      let (content, below) := combine stack list.toSet
      advance
      match below with
      | .class outer opening negated :: below =>
        let span ← since opening.start
        if below.isEmpty then return .bracketed span negated content
        else classFrom fuel below (outer.add (.nested span negated content))
      | _ => unclosedClass stack
    | some _ =>
      match ← setOperation? with
      | some operation =>
        let (left, below) := combine stack list.toSet
        classFrom fuel (.operation operation left :: below) ⟨← place, []⟩
      | none =>
        let item ← classRange stack
        classFrom fuel stack (list.add item)

/-- A class, from its opening bracket on. -/
def bracketed : Reader Node := do
  let fuel := (← get).rest.length
  let (frame, list) ← classOpening ⟨← place, []⟩
  classFrom fuel [frame] list

end Reader

end Quarry.Pattern
