import Quarry.Batch
import Quarry.Log
import Quarry.Query.Reader
import Quarry.Query.Selection
import Quarry.Store

/-!
A session: a store, and whether results are written in indented form. An operation gives its result
and what it logged; those that write also give the session after them. A refused record or query
leaves the session as it was.
-/

namespace Quarry

structure Session where
  store : Store
  pretty : Bool
  deriving DecidableEq, Repr

namespace Session

def empty (pretty : Bool) : Session := ⟨.empty, pretty⟩

def upsert (session : Session) (record : Record) : Session × Log :=
  let span := Span.store .upsert (some collectionName)
  let (replaced, store) := session.store.upsert record
  ({ session with store },
    .opened span :: span.count .affected 1 ++
      [.event span (.stored record.id replaced.isSome store.size)])

/-- Upserts a record given as JSON. -/
def post (session : Session) (data : String) : Except Json.Error Unit × Session × Log :=
  match Record.ofJson data with
  | .error e => (.error e, session, [])
  | .ok record => (.ok (), session.upsert record)

/-- Upserts the records of a batch, also those of one that broke off, and gives their number. -/
def receive (session : Session) (batch : Batch) : Except Batch.Error Nat × Session × Log :=
  let span := Span.store .load (some collectionName)
  let store := session.store.insertAll batch.records
  let count := batch.records.length
  let (result, log) := match batch.failure with
    | some e => (.error e, [])
    | none => (.ok count, span.count .affected count ++ [.event span (.loaded count store.size)])
  (result, { session with store }, .opened span :: log)

def load (session : Session) (bytes : List UInt8) : Except Batch.Error Nat × Session × Log :=
  session.receive (.ofBytes bytes)

/-- All records in the order of the store. -/
def scan (session : Session) : List Record × Log :=
  let span := Span.store .scan (some collectionName)
  (session.store.records, .opened span :: span.count .returned session.store.size)

def evaluate (session : Session) (query : Query) : Except QueryError (List Record) :=
  (query.select session.store.records).mapError .mismatch

/-- The entries of a query after its request: what was read of it, and how it ended. -/
def queryLog (span : Span) (reading : Query.Reading Query)
    (result : Except QueryError (List Record)) : Log :=
  let understood : List Event := match reading.result with
    | .ok query => [.understood query]
    | .error _ => []
  let ended : Log := match result with
    | .ok records => span.count .returned records.length
    | .error e => [.event span (.rejected e)]
  (reading.keywords.map Event.reading ++ understood).map (.event span) ++ ended

def query (session : Session) (text : String) : Except QueryError (List Record) × Log :=
  let span := Span.query text
  let reading := Query.read text
  let result := reading.result.bind session.evaluate
  (result, .opened span :: .event span (.requested text) :: queryLog span reading result)

def render (session : Session) (records : List Record) : String :=
  String.ofList (if session.pretty then Record.prettyList records else Record.compactList records)

def get (session : Session) (text : String) : Except QueryError String × Log :=
  let (result, log) := session.query text
  (result.map session.render, log)

end Session

end Quarry
