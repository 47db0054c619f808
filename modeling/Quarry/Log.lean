import Quarry.Query.Error
import Quarry.Query.Printer

/-!
The log as data. An operation opens a span, counts rows in it and reports events. Names, levels and
attributes are functions on the entries.
-/

namespace Quarry

inductive Operation where
  | upsert
  | load
  | scan
  | query
  deriving DecidableEq, Repr

def Operation.name : Operation → String
  | .upsert => "upsert"
  | .load => "load"
  | .scan => "scan"
  | .query => "query"

/-- Which rows a count is about. -/
inductive Rows where
  | returned
  | affected
  deriving DecidableEq, Repr

def Rows.key : Rows → String
  | .returned => "db.response.returned_rows"
  | .affected => "db.response.affected_rows"

inductive Attribute where
  | text (value : String)
  | number (value : Nat)
  | flag (value : Bool)
  deriving DecidableEq, Repr

/-- The name of the collection that the store is. -/
def collectionName : String := "records"

inductive Span where
  | store (operation : Operation) (collection : Option String)
  | query (text : String)
  deriving DecidableEq, Repr

namespace Span

def name : Span → String
  | .store _ _ => "db"
  | .query _ => "db.query"

def operation : Span → Operation
  | .store operation _ => operation
  | .query _ => .query

def collection? : Span → Option String
  | .store _ collection => collection
  | .query _ => some collectionName

def queryText? : Span → Option String
  | .store _ _ => none
  | .query text => some text

def title (span : Span) : String :=
  match span.collection? with
  | none => span.operation.name
  | some collection => span.operation.name ++ " " ++ collection

/-- The attributes known when the span is opened. -/
def attributes (span : Span) : List (String × Attribute) :=
  [("otel.name", .text span.title), ("db.system.name", .text "dataquery"),
    ("db.operation.name", .text span.operation.name)] ++
    span.collection?.toList.map (fun name => ("db.collection.name", .text name)) ++
    span.queryText?.toList.map fun text => ("db.query.text", .text text)

/-- A query affects no rows, so its span has no place for their number. -/
def declares : Span → Rows → Bool
  | .store _ _, _ => true
  | .query _, .returned => true
  | .query _, .affected => false

end Span

inductive Level where
  | info
  | warn
  | debug
  | trace
  deriving DecidableEq, Repr

def Level.name : Level → String
  | .info => "INFO"
  | .warn => "WARN"
  | .debug => "DEBUG"
  | .trace => "TRACE"

inductive Event where
  | requested (query : String)
  | reading (keyword : Keyword)
  | understood (query : Query)
  | rejected (error : QueryError)
  | stored (id : String) (replaced : Bool) (total : Nat)
  | loaded (count total : Nat)
  deriving DecidableEq, Repr

namespace Event

def level : Event → Level
  | .requested _ | .stored _ _ _ | .loaded _ _ => .info
  | .rejected _ => .warn
  | .understood _ => .debug
  | .reading _ => .trace

def message : Event → String
  | .requested query => "GET [" ++ query ++ "]"
  | .reading _ => "parsing"
  | .understood _ => "Parsed query"
  | .rejected _ => "Rejected query"
  | .stored _ _ _ => "Upserted record"
  | .loaded _ _ => "Loaded records"

def attributes : Event → List (String × Attribute)
  | .requested _ => []
  | .reading keyword => [("operator", .text keyword.text)]
  | .understood query => [("expression", .text query.outline)]
  | .rejected error => [("error", .text error.message)]
  | .stored id replaced total =>
    [("id", .text id), ("replaced", .flag replaced), ("total", .number total)]
  | .loaded count total => [("count", .number count), ("total", .number total)]

end Event

inductive Entry where
  | opened (span : Span)
  | counted (span : Span) (rows : Rows) (count : Nat)
  | event (span : Span) (event : Event)
  deriving DecidableEq, Repr

abbrev Log := List Entry

/-- Sets a number of rows in a span that has a place for it. -/
def Span.count (span : Span) (rows : Rows) (count : Nat) : Log :=
  if span.declares rows then [.counted span rows count] else []

/-- Opens a span and sets the numbers of rows that are known. -/
def Span.measure (span : Span) (returned affected : Option Nat) : Log :=
  .opened span :: returned.toList.flatMap (span.count .returned) ++
    affected.toList.flatMap (span.count .affected)

end Quarry
