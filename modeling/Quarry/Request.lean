import Quarry.Session

/-!
Requests to a session as data, their answers, and runs of several requests in a row.
-/

namespace Quarry

inductive Request where
  | upsert (record : Record)
  | post (data : String)
  | load (bytes : List UInt8)
  | scan
  | query (text : String)
  | get (text : String)
  | evaluate (parsed : Query)
  deriving DecidableEq, Repr

inductive RequestError where
  | query (reason : QueryError)
  | json (reason : Json.Error)
  | batch (reason : Batch.Error)
  deriving DecidableEq, Repr

namespace RequestError

def message : RequestError → String
  | .query reason => "Query error: " ++ reason.message
  | .json reason => "JSON error: " ++ reason.message
  | .batch reason => reason.message

/-- The message of what lies behind the error. -/
def cause : RequestError → String
  | .query reason => reason.message
  | .json reason => reason.message
  | .batch reason => reason.cause

end RequestError

inductive Answer where
  | stored
  | loaded (count : Nat)
  | records (records : List Record)
  | text (text : String)
  | failed (error : RequestError)
  deriving DecidableEq, Repr

structure Reply where
  answer : Answer
  session : Session
  log : Log
  deriving DecidableEq, Repr

def Answer.ofExcept {ε α : Type} (wrap : ε → RequestError) (make : α → Answer) :
    Except ε α → Answer
  | .ok value => make value
  | .error reason => .failed (wrap reason)

def Request.run (session : Session) : Request → Reply
  | .upsert record =>
    let (session, log) := session.upsert record
    ⟨.stored, session, log⟩
  | .post data =>
    let (result, session, log) := session.post data
    ⟨.ofExcept .json (fun _ => .stored) result, session, log⟩
  | .load bytes =>
    let (result, session, log) := session.load bytes
    ⟨.ofExcept .batch .loaded result, session, log⟩
  | .scan =>
    let (records, log) := session.scan
    ⟨.records records, session, log⟩
  | .query text =>
    let (result, log) := session.query text
    ⟨.ofExcept .query .records result, session, log⟩
  | .get text =>
    let (result, log) := session.get text
    ⟨.ofExcept .query .text result, session, log⟩
  | .evaluate parsed =>
    ⟨.ofExcept .query .records (session.evaluate parsed), session, []⟩

/-- The replies to requests of which each starts from the session that the one before has left. -/
def Session.run (session : Session) : List Request → List Reply
  | [] => []
  | request :: requests =>
    let reply := request.run session
    reply :: reply.session.run requests

end Quarry
