import Quarry.Proofs.Agreement
import Quarry.Proofs.Encoding
import Quarry.Proofs.JsonErrors
import Quarry.Proofs.Loading
import Quarry.Proofs.QueryErrors
import Quarry.Proofs.RecordText
import Quarry.Shell

/-! What a run of the shell amounts to. A line that is not blank is a request and gets one response, and
a request changes the session by the record that it stores, if it stores one. Main statement: the
responses of a run are the answers to its requests, each given on the session with the records stored
before. What is written is these responses, a line feed behind each, and in compact form each of them is
a single line. -/

namespace Quarry

namespace Shell

variable {place : String → Option Json.Place} {session : Session} {request : List Char}
  {response : String}

/-! Requests. -/

/-- The requests that texts make: what trimming leaves of them, if anything. -/
def requests (texts : List String) : List (List Char) :=
  (texts.map fun text => Text.trim text.toList).filter fun request => !request.isEmpty

/-- The record that a request stores. -/
def stored? (request : List Char) : Option Record :=
  if "POST ".toList <+: request then (Record.ofJson (String.ofList (request.drop 5))).toOption
  else none

/-- The session with the records that requests store. -/
def storing (session : Session) (requests : List (List Char)) : Session :=
  { session with store := session.store.insertAll (requests.filterMap stored?) }

/-- The response that a request must get. A refusal is reported with its message, and for a record also
with the place where reading it stopped. -/
inductive Answers (place : String → Option Json.Place) (session : Session) :
    List Char → String → Prop where
  | found {query text : String} (h : (session.get query).1 = .ok text) :
    Answers place session ("GET ".toList ++ query.toList) text
  | failed {query : String} {reason : QueryError} (h : (session.get query).1 = .error reason) :
    Answers place session ("GET ".toList ++ query.toList)
      ("error: " ++ (RequestError.query reason).message)
  | stored {data : String} (h : (session.post data).1 = .ok ()) :
    Answers place session ("POST ".toList ++ data.toList) "true"
  | refused {data : String} {reason : Json.Error} (h : (session.post data).1 = .error reason) :
    Answers place session ("POST ".toList ++ data.toList)
      ("error: " ++ Json.atPlace (RequestError.json reason).message (place data))
  | unknown {request : List Char} (get : ¬ "GET ".toList <+: request)
    (post : ¬ "POST ".toList <+: request) :
    Answers place session request "error: expected GET <query> or POST <json>"

theorem request_cases (request : List Char) :
    (∃ query : String, request = "GET ".toList ++ query.toList) ∨
      (∃ data : String, request = "POST ".toList ++ data.toList) ∨
      (¬ "GET ".toList <+: request ∧ ¬ "POST ".toList <+: request) := by
  by_cases get : "GET ".toList <+: request
  · obtain ⟨query, rfl⟩ := get
    exact Or.inl ⟨String.ofList query, congrArg ("GET ".toList ++ ·) String.toList_ofList.symm⟩
  by_cases post : "POST ".toList <+: request
  · obtain ⟨data, rfl⟩ := post
    refine Or.inr (Or.inl ⟨String.ofList data, ?_⟩)
    exact congrArg ("POST ".toList ++ ·) String.toList_ofList.symm
  · exact Or.inr (Or.inr ⟨get, post⟩)

theorem Command.ofText?_get (query : String) :
    ofText? ("GET ".toList ++ query.toList) = some (.get query) := by
  simp [ofText?]

theorem Command.ofText?_post (data : String) :
    ofText? ("POST ".toList ++ data.toList) = some (.post data) := by
  simp [ofText?]

theorem Command.ofText?_of_unknown (get : ¬ "GET ".toList <+: request)
    (post : ¬ "POST ".toList <+: request) : ofText? request = none := by
  unfold ofText?
  split
  · rfl
  · next space argument after =>
    have separator := List.head?_dropWhile_not (· ≠ ' ') request
    have whole : request.takeWhile (· ≠ ' ') ++ space :: argument = request := by
      rw [← after]
      exact List.takeWhile_append_dropWhile
    rw [after] at separator
    obtain rfl : space = ' ' := by simpa using separator
    dsimp only
    split_ifs with word word'
    · exfalso
      apply get
      exact ⟨argument, by rw [← whole, word]; rfl⟩
    · exfalso
      apply post
      exact ⟨argument, by rw [← whole, word']; rfl⟩
    · rfl

theorem stored?_post (data : String) :
    stored? ("POST ".toList ++ data.toList) = (Record.ofJson data).toOption := by
  have rest : ("POST ".toList ++ data.toList).drop 5 = data.toList := rfl
  rw [stored?, if_pos (List.prefix_append _ _), rest, String.ofList_toList]

theorem stored?_of_not_post (post : ¬ "POST ".toList <+: request) : stored? request = none :=
  if_neg post

theorem storing_append (session : Session) (before behind : List (List Char)) :
    storing session (before ++ behind) = storing (storing session before) behind := by
  simp only [storing, List.filterMap_append, Store.insertAll_append]

theorem storing_of_stored?_eq_none (session : Session) (h : stored? request = none) :
    storing session [request] = session := by
  rw [storing, List.filterMap_cons_none h]
  rfl

/-! One request. -/

theorem respond_get (place : String → Option Json.Place) (session : Session) (query : String) :
    Answers place session ("GET ".toList ++ query.toList)
        (respond place session ("GET ".toList ++ query.toList)).1 ∧
      (respond place session ("GET ".toList ++ query.toList)).2 = session := by
  rw [respond, Command.ofText?_get]
  cases answer : (session.get query).1 with
  | ok text =>
    simp only [Command.run, answer]
    exact ⟨Answers.found answer, rfl⟩
  | error reason =>
    simp only [Command.run, answer]
    exact ⟨Answers.failed answer, rfl⟩

theorem respond_post (place : String → Option Json.Place) (session : Session) (data : String) :
    Answers place session ("POST ".toList ++ data.toList)
        (respond place session ("POST ".toList ++ data.toList)).1 ∧
      (respond place session ("POST ".toList ++ data.toList)).2 = (session.post data).2.1 := by
  rw [respond, Command.ofText?_post]
  cases read : Record.ofJson data with
  | error reason =>
    have answer := session.post_of_error read
    simp only [Command.run, answer]
    exact ⟨Answers.refused (congrArg (·.1) answer), rfl⟩
  | ok record =>
    have answer := session.post_of_ok read
    simp only [Command.run, answer]
    exact ⟨Answers.stored (congrArg (·.1) answer), rfl⟩

theorem storing_post (session : Session) (data : String) :
    storing session ["POST ".toList ++ data.toList] = (session.post data).2.1 := by
  cases read : Record.ofJson data with
  | error reason =>
    have idle : stored? ("POST ".toList ++ data.toList) = none := by
      rw [stored?_post, read]
      rfl
    rw [storing_of_stored?_eq_none session idle, session.post_of_error read]
  | ok record =>
    rw [storing, List.filterMap_cons, stored?_post, read, session.post_of_ok read]
    rfl

/-- A request is answered, and nothing but a record that it stores is changed. -/
theorem respond_answers (place : String → Option Json.Place) (session : Session)
    (request : List Char) :
    Answers place session request (respond place session request).1 ∧
      (respond place session request).2 = storing session [request] := by
  rcases request_cases request with ⟨query, rfl⟩ | ⟨data, rfl⟩ | ⟨get, post⟩
  · have idle : stored? ("GET ".toList ++ query.toList) = none := stored?_of_not_post (by simp)
    rw [storing_of_stored?_eq_none session idle]
    exact respond_get place session query
  · rw [storing_post]
    exact respond_post place session data
  · rw [respond, Command.ofText?_of_unknown get post,
      storing_of_stored?_eq_none session (stored?_of_not_post post)]
    exact ⟨Answers.unknown get post, rfl⟩

/-! A run over lines. -/

/-- The responses of a run answer its requests, and the session it leaves has what they store. -/
structure Serves (place : String → Option Json.Place) (session : Session)
    (requests : List (List Char)) (transcript : Transcript) : Prop where
  count : transcript.responses.length = requests.length
  answers {i : Nat} {request : List Char} {response : String} (asked : requests[i]? = some request)
    (given : transcript.responses[i]? = some response) :
    Answers place (storing session (requests.take i)) request response
  left : transcript.session = storing session requests

/-- Why no more lines are read, if there are any: the first one is no text. -/
inductive Ends : List (List UInt8) → Option File.Error → Prop where
  | finished : Ends [] none
  | notText {line : List UInt8} {lines : List (List UInt8)} (decoded : Text.decode? line = none) :
    Ends (line :: lines) (some .notText)

theorem serves_nil (place : String → Option Json.Place) (session : Session)
    (failure : Option File.Error) :
    Serves place session [] ⟨[], session, failure⟩ :=
  ⟨rfl, nofun, rfl⟩

theorem Serves.cons {requests : List (List Char)} {transcript : Transcript}
    (first : Answers place session request response)
    (more : Serves place (storing session [request]) requests transcript) :
    Serves place session (request :: requests)
      { transcript with responses := response :: transcript.responses } where
  count := congrArg (· + 1) more.count
  answers := by
    intro i asked given isAsked isGiven
    cases i with
    | zero =>
      obtain rfl : request = asked := by simpa using isAsked
      obtain rfl : response = given := by simpa using isGiven
      exact first
    | succ i =>
      rw [List.getElem?_cons_succ] at isAsked isGiven
      have answer := more.answers isAsked isGiven
      rwa [← storing_append] at answer
  left := by
    rw [more.left, ← storing_append, List.singleton_append]

theorem requests_cons_of_blank {text : String} (blank : (Text.trim text.toList).isEmpty = true)
    (texts : List String) : requests (text :: texts) = requests texts := by
  simp [requests, blank]

theorem requests_cons_of_filled {text : String} (filled : (Text.trim text.toList).isEmpty = false)
    (texts : List String) :
    requests (text :: texts) = Text.trim text.toList :: requests texts := by
  simp [requests, filled]

theorem run_serves (place : String → Option Json.Place) (session : Session)
    (lines : List (List UInt8)) :
    ∃ front back texts, lines = front ++ back ∧ front.map Text.decode? = texts.map some ∧
      Ends back (run place session lines).failure ∧
      Serves place session (requests texts) (run place session lines) := by
  induction lines generalizing session with
  | nil => exact ⟨[], [], [], rfl, rfl, Ends.finished, serves_nil place session none⟩
  | cons line lines ih =>
    rw [run]
    cases decoded : Text.decode? line with
    | none =>
      have stopped : step place session line = .error .notText := by
        simp [step, File.decode, decoded]
      rw [stopped]
      exact ⟨[], line :: lines, [], rfl, rfl, Ends.notText decoded, serves_nil place session _⟩
    | some text =>
      cases blank : (Text.trim text.toList).isEmpty with
      | true =>
        have passed : step place session line = .ok (none, session) := by
          simp only [step, File.decode, decoded, blank, if_pos]
        rw [passed]
        obtain ⟨front, back, texts, rfl, all, ends, serves⟩ := ih session
        refine ⟨line :: front, back, text :: texts, rfl, by simp [decoded, all], ends, ?_⟩
        rw [requests_cons_of_blank blank]
        exact serves
      | false =>
        have answered : step place session line = .ok (some (respond place session (Text.trim text.toList)).1,
            (respond place session (Text.trim text.toList)).2) := by
          simp [step, File.decode, decoded, blank]
        obtain ⟨answer, left⟩ := respond_answers place session (Text.trim text.toList)
        rw [answered, left]
        obtain ⟨front, back, texts, rfl, all, ends, serves⟩ :=
          ih (storing session [Text.trim text.toList])
        refine ⟨line :: front, back, text :: texts, rfl, by simp [decoded, all], ends, ?_⟩
        rw [requests_cons_of_filled blank]
        exact serves.cons answer

/-! Single lines. -/

theorem singleLine_render (compact : session.pretty = false) (records : List Record) :
    Text.SingleLine (session.render records) := by
  have visible : ∀ c ∈ [','].intercalate (records.map (·.compact)), 0x20 ≤ c.toNat := by
    refine forall_mem_intercalate (by decide : 0x20 ≤ ','.toNat) ?_
    intro piece mem c mem'
    obtain ⟨record, -, rfl⟩ := List.mem_map.1 mem
    exact record.visible_of_mem_compact mem'
  have plain : '\n' ∉ [','].intercalate (records.map (·.compact)) := by
    intro mem
    exact absurd (visible '\n' mem) (by decide)
  rw [Session.render, compact]
  simpa [Text.SingleLine, Record.compactList] using plain

theorem singleLine_of_get {query text : String} (compact : session.pretty = false)
    (h : (session.get query).1 = .ok text) : Text.SingleLine text := by
  obtain ⟨records, -, rfl⟩ := map_eq_ok_iff.1 h
  exact singleLine_render compact records

theorem singleLine_message_of_get {query : String} {reason : QueryError}
    (single : Text.SingleLine query) (h : (session.get query).1 = .error reason) :
    Text.SingleLine reason.message := by
  have failed : (Query.ofText query).bind session.evaluate = .error reason := map_eq_error_iff.1 h
  rcases bind_eq_error_iff.1 failed with refused | ⟨query, -, failed⟩
  · exact Query.singleLine_message_of_ofText single refused
  · rcases session.evaluate_or query with ⟨records, answered⟩ | ⟨mismatch, failed'⟩
    · rw [answered] at failed
      cases failed
    · rw [failed'] at failed
      cases failed
      exact QueryError.singleLine_message (List.forall_mem_nil _)

/-- A response breaks the line only if the request does. -/
theorem Answers.singleLine (h : Answers place session request response) (compact : session.pretty = false)
    (single : '\n' ∉ request) : Text.SingleLine response := by
  cases h with
  | found h => exact singleLine_of_get compact h
  | @failed query reason h =>
    have query : Text.SingleLine query := fun mem => single (List.mem_append_right _ mem)
    have reason := singleLine_message_of_get query h
    exact .append (by decide) (.append (by decide) reason)
  | stored h => decide
  | @refused data reason h =>
    have reason := Record.singleLine_message_of_ofJson (session.ofJson_of_post h)
    exact .append (by decide) (Json.singleLine_atPlace (.append (by decide) reason) (place data))
  | unknown get post => decide

/-! What is written. -/

@[simp] theorem toList_written (response : String) :
    (written response).toList = response.toList ++ ['\n'] :=
  String.toList_append

theorem Transcript.toList_output (transcript : Transcript) :
    transcript.output.toList =
      transcript.responses.flatMap fun response => response.toList ++ ['\n'] := by
  simp [output, String.toList_join, List.flatMap_map]

/-- Every response ends the line that it is written on. -/
theorem count_newline_flatMap {responses : List String}
    (h : ∀ response ∈ responses, Text.SingleLine response) :
    (responses.flatMap fun response => response.toList ++ ['\n']).count '\n' =
      responses.length := by
  induction responses with
  | nil => rfl
  | cons response responses ih =>
    rw [List.forall_mem_cons] at h
    have own : response.toList.count '\n' = 0 := List.count_eq_zero.2 h.1
    rw [List.flatMap_cons, List.count_append, ih h.2, List.count_append, own, List.length_cons,
      Nat.zero_add, Nat.add_comm]
    rfl

theorem Serves.singleLine {requests : List (List Char)} {transcript : Transcript}
    (h : Serves place session requests transcript) (compact : session.pretty = false)
    (single : ∀ request ∈ requests, '\n' ∉ request) :
    ∀ response ∈ transcript.responses, Text.SingleLine response := by
  intro response mem
  obtain ⟨i, bound, rfl⟩ := List.getElem_of_mem mem
  have asked : i < requests.length := h.count ▸ bound
  have answer := h.answers (List.getElem?_eq_getElem asked) (List.getElem?_eq_getElem bound)
  exact answer.singleLine compact (single _ (List.getElem_mem asked))

theorem newline_notMem_of_mem_requests {lines : List (List UInt8)} {texts : List String}
    (plain : ∀ line ∈ lines, Text.lineFeed ∉ line) (all : lines.map Text.decode? = texts.map some) :
    ∀ request ∈ requests texts, '\n' ∉ request := by
  intro request mem mem'
  obtain ⟨text, read, rfl⟩ := List.mem_map.1 (List.mem_filter.1 mem).1
  have decoded : some text ∈ lines.map Text.decode? := all ▸ List.mem_map_of_mem read
  obtain ⟨line, listed, decoded⟩ := List.mem_map.1 decoded
  have single := Text.newline_notMem_of_decode? (plain line listed) decoded
  exact single ((Text.trim_infix text.toList).subset mem')

/-- The shell serves the requests in its input one after the other, up to a line that is no text. It
writes the responses, each with a line feed behind it, and in compact form as many lines as there are
requests. -/
theorem run_serves_lines (place : String → Option Json.Place) (session : Session)
    (bytes : List UInt8) :
    let transcript := run place session (Text.lines bytes)
    ∃ front back texts, Text.Cut bytes (front ++ back) ∧
      front.map Text.decode? = texts.map some ∧ Ends back transcript.failure ∧
      Serves place session (requests texts) transcript ∧
      transcript.output.toList =
        (transcript.responses.flatMap fun response => response.toList ++ ['\n']) ∧
      (session.pretty = false →
        transcript.output.toList.count '\n' = (requests texts).length) := by
  intro transcript
  obtain ⟨front, back, texts, eq, all, ends, serves⟩ := run_serves place session (Text.lines bytes)
  have cut : Text.Cut bytes (front ++ back) := Text.cut_iff.2 eq
  refine ⟨front, back, texts, cut, all, ends, serves, transcript.toList_output, ?_⟩
  intro compact
  have plain : ∀ line ∈ front, Text.lineFeed ∉ line :=
    fun line mem => cut.lineFeed_notMem line (List.mem_append_left back mem)
  have single := serves.singleLine compact (newline_notMem_of_mem_requests plain all)
  rw [transcript.toList_output, ← serves.count]
  exact count_newline_flatMap single

end Shell

end Quarry
