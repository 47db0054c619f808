import Quarry.Proofs.QueryLog
import Quarry.Proofs.Replay

/-! What the log tells of writes. Counts are taken from the store, which holds one record for each id
that was ever written to it, whether or not the request that wrote it succeeded. Main statement: at
each step of a run the counts told are those of the ids that its requests have written so far. -/

namespace Quarry

/-! The ids in a store. -/

namespace Store

variable {history : List Record}

def writtenIds (history : List Record) : Finset String :=
  (history.map (·.id)).toFinset

theorem size_eq_card (history : List Record) :
    (empty.insertAll history).size = (writtenIds history).card :=
  size_insertAll_empty history

/-- A record is replaced if its id has been written before. -/
theorem isSome_upsert_fst (history : List Record) (record : Record) :
    ((empty.insertAll history).upsert record).1.isSome = decide (record.id ∈ writtenIds history) := by
  rw [upsert_fst, get?, Bool.eq_iff_iff, List.find?_isSome, decide_eq_true_iff, writtenIds,
    List.mem_toFinset, ← mem_ids_lastWrites, records_insertAll_empty, List.mem_map]
  simp only [decide_eq_true_iff]

end Store

/-! One request. -/

namespace Request

/-- The ids of the records that requests have written. -/
def writtenIds (requests : List Request) : Finset String :=
  Store.writtenIds (requests.flatMap (·.writes))

/-- What is told of a record that is written. -/
def stored (before after : Finset String) (id : String) : List Signal :=
  let span := Span.store .upsert (some "records")
  [.opened span, .recorded span "db.response.affected_rows" 1,
    .event span .info "Upserted record"
      [("id", .text id), ("replaced", .flag (id ∈ before)), ("total", .number after.card)]]

/-- What is told of records that are loaded. -/
def loaded (after : Finset String) (count : Nat) : List Signal :=
  let span := Span.store .load (some "records")
  [.opened span, .recorded span "db.response.affected_rows" count,
    .event span .info "Loaded records" [("count", .number count), ("total", .number after.card)]]

def scanned (known : Finset String) : List Signal :=
  let span := Span.store .scan (some "records")
  [.opened span, .recorded span "db.response.returned_rows" known.card]

/-- No rows are counted as written. -/
def Unaffected (signals : List Signal) : Prop :=
  ∀ span count, .recorded span "db.response.affected_rows" count ∉ signals

/-- What must be told of a request, in terms of the ids written before it and after it. -/
inductive Reports (before after : Finset String) : Request → Answer → List Signal → Prop where
  | upsert (record : Record) :
    Reports before after (.upsert record) .stored (stored before after record.id)
  | post {data : String} {record : Record} (read : Record.ofJson data = .ok record) :
    Reports before after (.post data) .stored (stored before after record.id)
  | refused {data : String} {reason : Json.Error} (read : Record.ofJson data = .error reason) :
    Reports before after (.post data) (.failed (.json reason)) []
  | loaded {bytes : List UInt8} {count : Nat} :
    Reports before after (.load bytes) (.loaded count) (loaded after count)
  | broken {bytes : List UInt8} {reason : Batch.Error} :
    Reports before after (.load bytes) (.failed (.batch reason))
      [.opened (.store .load (some "records"))]
  | scan {records : List Record} : Reports before after .scan (.records records) (scanned before)
  | query {text : String} {answer : Answer} {signals : List Signal} (h : Unaffected signals) :
    Reports before after (.query text) answer signals
  | get {text : String} {answer : Answer} {signals : List Signal} (h : Unaffected signals) :
    Reports before after (.get text) answer signals
  | evaluate {parsed : Query} {answer : Answer} : Reports before after (.evaluate parsed) answer []

variable {session : Session} {history : List Record}

theorem signals_upsert (h : session.store = Store.empty.insertAll history) (record : Record) :
    (session.upsert record).2.signals = stored (Store.writtenIds history)
      (Store.writtenIds (history ++ [record])) record.id := by
  have replaced := Store.isSome_upsert_fst history record
  have total := Store.size_eq_card (history ++ [record])
  rw [Store.insertAll_append, ← h] at total
  rw [← h] at replaced
  rw [stored, ← replaced, ← total]
  rfl

theorem unaffected_query (session : Session) (text : String) :
    Unaffected (session.query text).2.signals := by
  intro span count mem
  rw [Session.signals_query_snd] at mem
  cases read : Query.ofText text <;> cases answer : (session.query text).1 <;>
    simp [read, answer, Signal.parsing, Signal.parsed, Signal.ended] at mem

theorem reports_load (h : session.store = Store.empty.insertAll history) (bytes : List UInt8) :
    Reports (Store.writtenIds history)
      (Store.writtenIds (history ++ (Request.load bytes).writes)) (.load bytes)
      (run session (.load bytes)).answer (run session (.load bytes)).log.signals := by
  have records : (Batch.ofBytes bytes).records = (Request.load bytes).writes :=
    Batch.records_ofLines 1 (Text.lines bytes)
  have total := Store.size_eq_card (history ++ (Request.load bytes).writes)
  rw [Store.insertAll_append, ← h, ← records] at total
  rw [← records]
  cases failure : (Batch.ofBytes bytes).failure with
  | none =>
    have signals : (run session (.load bytes)).log.signals =
        loaded (Store.writtenIds (history ++ (Batch.ofBytes bytes).records))
          (Batch.ofBytes bytes).records.length := by
      rw [loaded, ← total]
      simp only [run, Session.load, Session.receive, failure]
      rfl
    rw [signals]
    simp only [run, Session.load, Session.receive, failure, Answer.ofExcept]
    exact .loaded
  | some reason =>
    -- the records stay, but nothing is told of them
    simp only [run, Session.load, Session.receive, failure, Answer.ofExcept]
    exact .broken

/-- One request tells the counts of the ids written before it and after it. -/
theorem reports_run (h : session.store = Store.empty.insertAll history) (request : Request) :
    Reports (Store.writtenIds history) (Store.writtenIds (history ++ request.writes)) request
      (request.run session).answer (request.run session).log.signals := by
  cases request with
  | upsert record =>
    have signals := signals_upsert h record
    simp only [run, writes]
    rw [signals]
    exact .upsert record
  | post data =>
    cases read : Record.ofJson data with
    | error reason =>
      simp only [run, Session.post, read, Answer.ofExcept]
      exact .refused read
    | ok record =>
      have signals := signals_upsert h record
      simp only [run, Session.post, read, Answer.ofExcept, writes, Except.toOption,
        Option.toList_some]
      rw [signals]
      exact .post read
  | load bytes => exact reports_load h bytes
  | scan =>
    have total := Store.size_eq_card history
    rw [← h] at total
    have signals : (run session .scan).log.signals = scanned (Store.writtenIds history) := by
      rw [scanned, ← total]
      rfl
    rw [signals]
    exact .scan
  | query text => exact .query (unaffected_query session text)
  | get text => exact .get (unaffected_query session text)
  | evaluate parsed => exact .evaluate

end Request

/-! A run of requests. -/

namespace Session

theorem length_run (session : Session) (requests : List Request) :
    (session.run requests).length = requests.length := by
  induction requests generalizing session with
  | nil => rfl
  | cons request requests ih => rw [run, List.length_cons, List.length_cons, ih]

theorem run_append (session : Session) (front back : List Request) :
    session.run (front ++ back) = session.run front ++ (session.after front).run back := by
  induction front generalizing session with
  | nil => rfl
  | cons request front ih => rw [List.cons_append, run, run, ih, after_cons, List.cons_append]

/-- Every step of a run tells the counts of the ids that were written up to it, those of a batch that
broke off among them, although that batch is not counted itself. -/
theorem run_reports (pretty : Bool) (front : List Request) (request : Request)
    (back : List Request) :
    ∃ reply, ((Session.empty pretty).run (front ++ request :: back))[front.length]? = some reply ∧
      Request.Reports (Request.writtenIds front) (Request.writtenIds (front ++ [request])) request
        reply.answer reply.log.signals := by
  have store : ((Session.empty pretty).after front).store =
      Store.empty.insertAll (front.flatMap (·.writes)) :=
    congrArg Session.store (after_eq (Session.empty pretty) front)
  refine ⟨request.run ((Session.empty pretty).after front), ?_, ?_⟩
  · rw [run_append, List.getElem?_append_right (by rw [length_run]), length_run, Nat.sub_self]
    rfl
  · have reports := Request.reports_run store request
    rwa [← List.flatMap_singleton (f := Request.writes), ← List.flatMap_append] at reports

end Session

end Quarry
