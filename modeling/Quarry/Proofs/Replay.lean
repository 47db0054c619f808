import Quarry.Proofs.Batch
import Quarry.Proofs.History
import Quarry.Request

/-! What a run of requests leaves behind. A request that is answered changes the store by the records
that it writes, and by nothing else. Main statement: the session after a run is the one before it with
these records written in order, and a request that writes none may be left out of the run. -/

namespace Quarry

/-! One request. -/

namespace Request

variable {session : Session} {request : Request}

/-- The records that a request writes to a store. -/
def writes : Request → List Record
  | .upsert record => [record]
  | .post data => (Record.ofJson data).toOption.toList
  | .load bytes => Batch.accepted (Text.lines bytes)
  | .scan | .query _ | .get _ | .evaluate _ => []

/-- Whether a request only reads, or is a record that was refused. -/
def isIdle : Request → Answer → Bool
  | .scan, _ | .query _, _ | .get _, _ | .evaluate _, _ => true
  | .post _, .failed _ => true
  | .upsert _, _ | .load _, _ | .post _, _ => false

theorem session_run (session : Session) (request : Request) : (request.run session).session =
    { session with store := session.store.insertAll request.writes } := by
  cases request with
  | upsert record => rfl
  | post data =>
    cases read : Record.ofJson data with
    | error reason => simp [run, Session.post, writes, read, Except.toOption]
    | ok record =>
      simp only [run, Session.post, writes, read, Except.toOption, Option.toList_some]
      rfl
  | load bytes =>
    rw [writes, ← Batch.records_ofLines 1]
    rfl
  | scan => rfl
  | query text => rfl
  | get text => rfl
  | evaluate parsed => rfl

theorem writes_of_isIdle (h : request.isIdle (request.run session).answer = true) :
    request.writes = [] := by
  cases request with
  | upsert record => cases h
  | post data =>
    cases read : Record.ofJson data with
    | error reason => simp [writes, read, Except.toOption]
    | ok record => simp [run, Session.post, read, Answer.ofExcept, isIdle] at h
  | load bytes => cases h
  | scan => rfl
  | query text => rfl
  | get text => rfl
  | evaluate parsed => rfl

theorem session_run_of_isIdle (h : request.isIdle (request.run session).answer = true) :
    (request.run session).session = session := by
  rw [session_run, writes_of_isIdle h, Store.insertAll_nil]

end Request

/-! A run of requests. -/

namespace Session

variable {session : Session}

/-- The session that a run of requests leaves behind. -/
def after (session : Session) (requests : List Request) : Session :=
  requests.foldl (fun session request => (request.run session).session) session

/-- The requests of a run with their replies. -/
def steps (session : Session) (requests : List Request) : List (Request × Reply) :=
  requests.zip (session.run requests)

/-- The requests of a run, with their replies, that are not idle. -/
def effects (session : Session) (requests : List Request) : List (Request × Reply) :=
  (session.steps requests).filter fun step => !step.1.isIdle step.2.answer

theorem after_cons (session : Session) (request : Request) (requests : List Request) :
    session.after (request :: requests) = (request.run session).session.after requests := rfl

theorem after_eq (session : Session) (requests : List Request) : session.after requests =
    { session with store := session.store.insertAll (requests.flatMap (·.writes)) } := by
  induction requests generalizing session with
  | nil => rfl
  | cons request requests ih =>
    rw [after_cons, ih, Request.session_run, List.flatMap_cons, Store.insertAll_append]

theorem effects_cons (session : Session) (request : Request) (requests : List Request) :
    session.effects (request :: requests) =
      if request.isIdle (request.run session).answer then
        (request.run session).session.effects requests
      else
        (request, request.run session) :: (request.run session).session.effects requests := by
  rw [effects, steps, run, List.zip_cons_cons, List.filter_cons]
  cases request.isIdle (request.run session).answer <;> rfl

/-- The requests that are not idle make up a run of their own, with the same replies. -/
theorem run_effects (session : Session) (requests : List Request) :
    session.run ((session.effects requests).map (·.1)) = (session.effects requests).map (·.2) ∧
      session.after ((session.effects requests).map (·.1)) = session.after requests := by
  induction requests generalizing session with
  | nil => exact ⟨rfl, rfl⟩
  | cons request requests ih =>
    rw [effects_cons, after_cons]
    split
    · next idle =>
      rw [Request.session_run_of_isIdle idle]
      exact ih session
    · rw [List.map_cons, List.map_cons, run, after_cons, (ih _).1, (ih _).2]
      exact ⟨rfl, rfl⟩

theorem unique_after (h : session.store.Unique) (requests : List Request) :
    (session.after requests).store.Unique := by
  rw [after_eq]
  exact h.insertAll (requests.flatMap (·.writes))

theorem unique_of_mem_run {requests : List Request} {reply : Reply} (h : session.store.Unique)
    (mem : reply ∈ session.run requests) : reply.session.store.Unique := by
  induction requests generalizing session with
  | nil => cases mem
  | cons request requests ih =>
    have kept : (request.run session).session.store.Unique := by
      rw [Request.session_run]
      exact h.insertAll request.writes
    rcases List.mem_cons.1 mem with rfl | mem
    · exact kept
    · exact ih kept mem

/-- A session is the history of its writes: what was read in between, and what was refused, makes no
difference to it and to the other replies. -/
theorem run_reflects_writes (pretty : Bool) (requests : List Request) :
    let session := Session.empty pretty
    let effects := session.effects requests
    (session.after requests).store = Store.empty.insertAll (requests.flatMap (·.writes)) ∧
      session.run (effects.map (·.1)) = effects.map (·.2) ∧
      session.after (effects.map (·.1)) = session.after requests ∧
      ∀ reply ∈ session.run requests, reply.session.store.Unique := by
  intro session effects
  obtain ⟨replies, left⟩ := session.run_effects requests
  refine ⟨?_, replies, left, ?_⟩
  · rw [after_eq]
    rfl
  · intro reply mem
    exact unique_of_mem_run Store.unique_empty mem

end Session

end Quarry
