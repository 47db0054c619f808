/-!
Records and their five fields. Three fields hold text and two hold numbers of 64 bits.
-/

namespace Quarry

inductive Field where
  | id
  | title
  | content
  | views
  | timestamp
  deriving DecidableEq, Repr

inductive FieldKind where
  | text
  | number
  deriving DecidableEq, Repr

namespace Field

/-- The fields in the order of declaration, which is the order in which records are written. -/
def all : List Field := [.id, .title, .content, .views, .timestamp]

def name : Field → String
  | .id => "id"
  | .title => "title"
  | .content => "content"
  | .views => "views"
  | .timestamp => "timestamp"

def kind : Field → FieldKind
  | .id | .title | .content => .text
  | .views | .timestamp => .number

def ofName? (name : String) : Option Field :=
  all.find? fun field => field.name = name

theorem ofName?_name (field : Field) : ofName? field.name = some field := by
  cases field <;> decide

theorem name_inj {a b : Field} (h : a.name = b.name) : a = b := by
  have eq := ofName?_name a
  rw [h, ofName?_name b] at eq
  exact (Option.some.inj eq).symm

theorem ofName?_eq_some_iff {name : String} {field : Field} :
    ofName? name = some field ↔ field.name = name := by
  constructor
  · intro h
    simpa using List.find?_some h
  · rintro rfl
    exact ofName?_name field

end Field

inductive FieldValue where
  | text (value : String)
  | number (value : Int64)
  deriving DecidableEq, Repr

structure Record where
  id : String
  title : String
  content : String
  views : Int64
  timestamp : Int64
  deriving DecidableEq, Repr

def Record.get (record : Record) : Field → FieldValue
  | .id => .text record.id
  | .title => .text record.title
  | .content => .text record.content
  | .views => .number record.views
  | .timestamp => .number record.timestamp

end Quarry
