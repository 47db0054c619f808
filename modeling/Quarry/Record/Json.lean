import Quarry.Json.Reader
import Quarry.Number.Integer
import Quarry.Record

/-!
Records as JSON. A record is written as an object of its five fields in order, on one line or as an
indented block. It is read from an object with its fields in any order and unknown fields besides,
or from a list of its five values.
-/

namespace Quarry

open Json

namespace Record

/-- The fields of a record that have been read so far. -/
structure Draft where
  id : Option String
  title : Option String
  content : Option String
  views : Option Int64
  timestamp : Option Int64

namespace Draft

def empty : Draft := ⟨none, none, none, none, none⟩

def has (draft : Draft) : Field → Bool
  | .id => draft.id.isSome
  | .title => draft.title.isSome
  | .content => draft.content.isSome
  | .views => draft.views.isSome
  | .timestamp => draft.timestamp.isSome

/-- Reads the value of a field into the draft. -/
def fill (field : Field) (draft : Draft) : Reader Draft :=
  match field with
  | .id => (Reader.text "a string").map fun value => { draft with id := some value }
  | .title => (Reader.text "a string").map fun value => { draft with title := some value }
  | .content => (Reader.text "a string").map fun value => { draft with content := some value }
  | .views => Reader.integer.map fun value => { draft with views := some value }
  | .timestamp => Reader.integer.map fun value => { draft with timestamp := some value }

def member (draft : Draft) (key : String) : Except Error (Reader Draft) :=
  match Field.ofName? key with
  | some field =>
    if draft.has field then .error (.duplicateField key) else .ok (draft.fill field)
  | none => .ok (Reader.skip.map fun _ => draft)

def need {α : Type} (field : Field) (value : Option α) : Except Error α :=
  match value with
  | some value => .ok value
  | none => .error (.missingField field.name)

def complete (draft : Draft) : Except Error Record := do
  return {
    id := ← need .id draft.id
    title := ← need .title draft.title
    content := ← need .content draft.content
    views := ← need .views draft.views
    timestamp := ← need .timestamp draft.timestamp }

end Draft

def shape : Shape Draft Record where
  name := "struct Record"
  start := Draft.empty
  member := Draft.member
  steps := Field.all.map fun field draft => draft.fill field
  short count _ := .error (.wrongLength count "struct Record with 5 elements")
  complete := Draft.complete

def ofJson (text : String) : Except Error Record :=
  shape.decode text

end Record

def FieldValue.letters : FieldValue → List Char
  | .text value => writeText value
  | .number value => Integer.toText value.toInt

/-- A line break and the indentation after it. -/
def newline (indent : Nat) : List Char :=
  '\n' :: List.replicate (2 * indent) ' '

namespace Record

def compact (record : Record) : List Char :=
  let member (field : Field) := writeText field.name ++ ':' :: (record.get field).letters
  '\x7b' :: List.intercalate [','] (Field.all.map member) ++ ['\x7d']

def pretty (indent : Nat) (record : Record) : List Char :=
  let member (field : Field) :=
    newline (indent + 1) ++ writeText field.name ++ ':' :: ' ' :: (record.get field).letters
  '\x7b' :: List.intercalate [','] (Field.all.map member) ++ newline indent ++ ['\x7d']

def compactList (records : List Record) : List Char :=
  '[' :: List.intercalate [','] (records.map compact) ++ [']']

def prettyList (records : List Record) : List Char :=
  if records.isEmpty then ['[', ']']
  else
    let item (record : Record) := newline 1 ++ record.pretty 1
    '[' :: List.intercalate [','] (records.map item) ++ newline 0 ++ [']']

end Record

end Quarry
