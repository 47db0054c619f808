import Quarry.Query.Group
import Quarry.Text.Blank

/-!
Reading a query from its text. Every step takes a piece off the front and hands on the rest, so that
what is left at the end of a group or of the text is noticed and refused. The keywords met from the
outermost expression inwards are reported with the result.
-/

namespace Quarry

def Keyword.read (text : List Char) : Except QueryError (Keyword × List Char) :=
  match Keyword.list.find? fun keyword => keyword.text.toList.isPrefixOf text with
  | some keyword => .ok (keyword, text.drop keyword.text.toList.length)
  | none => .error (.unrecognized (snippet text))

def Field.read (name : List Char) : Except QueryError Field :=
  match Field.ofName? (String.ofList name) with
  | some field => .ok field
  | none => .error (.malformed (.unknownField (String.ofList name)))

/-- The literal of a text field stands in quotes, that of a number field is taken as it is. -/
def Condition.ofParts (comparison : Comparison) (field : Field) (value : List Char) :
    Except QueryError Condition :=
  match field.kind with
  | .number => .ok ⟨comparison, field, String.ofList value⟩
  | .text =>
    match comparison with
    | .equal => (Group.unquote value).map fun literal => ⟨.equal, field, String.ofList literal⟩
    | .greater | .less => .error (.mismatch (.ordering comparison field))

/-- Reads what follows the keyword of a comparison. -/
def Condition.readAfter (comparison : Comparison) (text : List Char) :
    Except QueryError (Condition × List Char) := do
  let (inner, rest) ← Group.split text
  let (name, value) ← Group.pair inner
  let field ← Field.read name
  let condition ← Condition.ofParts comparison field value
  return (condition, rest)

def Condition.read (text : List Char) : Except QueryError (Condition × List Char) := do
  let (keyword, rest) ← Keyword.read text
  match keyword.comparison? with
  | some comparison => Condition.readAfter comparison rest
  | none => throw (.malformed (.notComparison keyword))

theorem Keyword.length_of_read {text rest : List Char} {keyword : Keyword}
    (h : Keyword.read text = .ok (keyword, rest)) : rest.length ≤ text.length := by
  unfold Keyword.read at h
  split at h
  · cases h
    simp
  · cases h

theorem Condition.length_of_readAfter {comparison : Comparison} {text rest : List Char}
    {condition : Condition} (h : Condition.readAfter comparison text = .ok (condition, rest)) :
    rest.length < text.length := by
  unfold Condition.readAfter at h
  cases split : Group.split text with
  | error e => simp [split, bind, Except.bind] at h
  | ok parts =>
    obtain ⟨inner, after⟩ := parts
    cases pair : Group.pair inner with
    | error e => simp [split, pair, bind, Except.bind] at h
    | ok values =>
      obtain ⟨name, value⟩ := values
      cases field : Field.read name with
      | error e => simp [split, pair, field, bind, Except.bind] at h
      | ok field' =>
        cases made : Condition.ofParts comparison field' value with
        | error e => simp [split, pair, field, made, bind, Except.bind] at h
        | ok condition' =>
          simp only [split, pair, field, made, bind, Except.bind, pure, Except.pure,
            Except.ok.injEq, Prod.mk.injEq] at h
          exact h.2 ▸ Group.length_of_split split

theorem Condition.length_of_read {text rest : List Char} {condition : Condition}
    (h : Condition.read text = .ok (condition, rest)) : rest.length < text.length := by
  unfold Condition.read at h
  cases read : Keyword.read text with
  | error e => simp [read, bind, Except.bind] at h
  | ok parts =>
    obtain ⟨keyword, after⟩ := parts
    simp only [read, bind, Except.bind] at h
    split at h
    · exact Nat.lt_of_lt_of_le (Condition.length_of_readAfter h) (Keyword.length_of_read read)
    · cases h

/-- Reads conditions with single commas between them up to the end of the text. -/
def Condition.readList (body : List Char) : Except QueryError (List Condition) :=
  if body.isEmpty then .ok []
  else
    match _ : Condition.read body with
    | .error e => .error e
    | .ok (condition, []) => .ok [condition]
    | .ok (_, [',']) => .error (.malformed .trailingComma)
    | .ok (condition, ',' :: next) => (Condition.readList next).map (condition :: ·)
    | .ok (_, rest) => .error (.malformed (.notSeparated (String.ofList rest)))
termination_by body.length
decreasing_by
  have := Condition.length_of_read ‹_›
  simp only [List.length_cons] at this
  omega

namespace Query

def expectEnd (rest : List Char) : Except QueryError Unit :=
  if rest.isEmpty then .ok () else .error (.malformed (.trailing (String.ofList rest)))

/-- What reading a text gives: the keywords met, from the outermost inwards, and the result. -/
structure Reading (α : Type) where
  keywords : List Keyword
  result : Except QueryError α

def readConditions (make : List Condition → Query) (text : List Char) :
    Except QueryError (Query × List Char) := do
  let (body, rest) ← Group.split text
  let conditions ← Condition.readList body
  return (make conditions, rest)

def readLeaf (comparison : Comparison) (text : List Char) :
    Except QueryError (Query × List Char) := do
  let (condition, rest) ← Condition.readAfter comparison text
  return (.leaf condition, rest)

/-- Reads one expression in which at most `levels` NOTs may be nested. -/
def readTree (levels : Nat) (text : List Char) : Reading (Query × List Char) :=
  match Keyword.read text with
  | .error e => ⟨[], .error e⟩
  | .ok (.equal, rest) => ⟨[.equal], readLeaf .equal rest⟩
  | .ok (.greaterThan, rest) => ⟨[.greaterThan], readLeaf .greater rest⟩
  | .ok (.lessThan, rest) => ⟨[.lessThan], readLeaf .less rest⟩
  | .ok (.and, rest) => ⟨[.and], readConditions .all rest⟩
  | .ok (.or, rest) => ⟨[.or], readConditions .any rest⟩
  | .ok (.not, rest) =>
    match levels with
    | 0 => ⟨[.not], .error (.malformed .tooDeep)⟩
    | levels + 1 =>
      match Group.split rest with
      | .error e => ⟨[.not], .error e⟩
      | .ok (inner, rest) =>
        let below := readTree levels inner
        ⟨.not :: below.keywords, do
          let (query, leftover) ← below.result
          expectEnd leftover
          return (.not query, rest)⟩

def read (text : String) : Reading Query :=
  let tree := readTree maxNegations (Text.trim text.toList)
  ⟨tree.keywords, do
    let (query, rest) ← tree.result
    expectEnd rest
    return query⟩

def ofText (text : String) : Except QueryError Query :=
  (read text).result

end Query

end Quarry
