import Quarry.Proofs.Agreement

/-! What the log tells of a query. The reader reports one keyword for each expression that it enters,
so that its reports go down the tree that it builds, and end at the limit of nested NOTs whatever the
text. Main statement: the entries of a query are its text, these keywords, the tree if there is one,
and how it ended. -/

namespace Quarry

/-- An entry as it is told to whoever listens: level, message and attributes of an event, and the
name under which rows are counted. -/
inductive Signal where
  | opened (span : Span)
  | recorded (span : Span) (key : String) (count : Nat)
  | event (span : Span) (level : Level) (message : String) (attributes : List (String × Attribute))
  deriving DecidableEq, Repr

def Entry.signal : Entry → Signal
  | .opened span => .opened span
  | .counted span rows count => .recorded span rows.key count
  | .event span fact => .event span fact.level fact.message fact.attributes

def Log.signals (log : Log) : List Signal :=
  log.map Entry.signal

/-! The keywords of a reading. -/

namespace Query

variable {levels : Nat} {text inner rest after : List Char} {query : Query}

/-- The keywords from the outermost NOT inwards, up to the first that is no NOT. -/
def heads : Query → List Keyword
  | .not query => .not :: query.heads
  | .leaf condition => [condition.comparison.keyword]
  | .all _ => [.and]
  | .any _ => [.or]

theorem length_keywords_le (levels : Nat) (text : List Char) :
    (readTree levels text).keywords.length ≤ levels + 1 := by
  fun_induction readTree levels text with
  | case9 levels text after read inner rest cut below ih => simpa using ih
  | _ => simp

theorem keywords_comparison {comparison : Comparison}
    (h : Keyword.read text = .ok (comparison.keyword, rest)) :
    (readTree levels text).keywords = [comparison.keyword] := by
  cases comparison <;> simp [readTree, h, Comparison.keyword]

theorem keywords_not_succ (h : Keyword.read text = .ok (.not, after))
    (cut : Group.split after = .ok (inner, rest)) :
    (readTree (levels + 1) text).keywords = .not :: (readTree levels inner).keywords := by
  rw [readTree]
  simp only [h, cut]

theorem keywords_of_readTree {levels : Nat} {text rest : List Char} {query : Query}
    (h : (readTree levels text).result = .ok (query, rest)) :
    (readTree levels text).keywords = query.heads := by
  obtain ⟨keyword, after, read⟩ := exists_read_of_readTree h
  rcases keyword.comparison_or with ⟨comparison, rfl⟩ | rfl | rfl | rfl
  · rw [readTree_comparison read, readLeaf_eq_ok_iff] at h
    obtain ⟨condition, rfl, rfl, -⟩ := h
    exact keywords_comparison read
  · rw [readTree_and read, readConditions_eq_ok_iff] at h
    obtain ⟨conditions, rfl, -⟩ := h
    simp [readTree, read, heads]
  · rw [readTree_or read, readConditions_eq_ok_iff] at h
    obtain ⟨conditions, rfl, -⟩ := h
    simp [readTree, read, heads]
  · cases levels with
    | zero =>
      rw [readTree_not_zero read] at h
      cases h
    | succ levels =>
      obtain ⟨inner, below, rfl, cut, inside⟩ := (readTree_not_succ_eq_ok_iff read).1 h
      rw [keywords_not_succ read cut, keywords_of_readTree inside, heads]
termination_by levels

theorem keywords_of_ofText {raw : String} (h : ofText raw = .ok query) :
    (read raw).keywords = query.heads :=
  keywords_of_readTree (ofText_eq_ok_iff_readTree.1 h)

end Query

/-! The log of a query. -/

namespace Signal

variable (span : Span)

def parsing (keyword : Keyword) : Signal :=
  .event span .trace "parsing" [("operator", .text keyword.text)]

/-- What is told of the tree that a text was read as, if it was. -/
def parsed : Except QueryError Query → List Signal
  | .ok query => [.event span .debug "Parsed query" [("expression", .text query.outline)]]
  | .error _ => []

/-- What is told last: the number of records, or why there are none. -/
def ended : Except QueryError (List Record) → Signal
  | .ok records => .recorded span "db.response.returned_rows" records.length
  | .error reason => .event span .warn "Rejected query" [("error", .text reason.message)]

end Signal

namespace Session

theorem query_snd (session : Session) (text : String) : (session.query text).2 =
    .opened (.query text) :: .event (.query text) (.requested text) ::
      queryLog (.query text) (Query.read text) (session.query text).1 := rfl

theorem signals_queryLog (text : String) (reading : Query.Reading Query)
    (result : Except QueryError (List Record)) :
    (queryLog (.query text) reading result).signals =
      reading.keywords.map (Signal.parsing (.query text)) ++
        Signal.parsed (.query text) reading.result ++ [Signal.ended (.query text) result] := by
  have keywords : (reading.keywords.map Event.reading).map
        (Entry.signal ∘ Entry.event (.query text)) =
      reading.keywords.map (Signal.parsing (.query text)) := by
    rw [List.map_map]
    rfl
  simp only [queryLog, Log.signals, List.map_append]
  rw [List.map_map, keywords]
  congr 1
  · cases reading.result <;> rfl
  · cases result <;> rfl

theorem signals_query_snd (session : Session) (text : String) :
    (session.query text).2.signals = .opened (.query text) ::
      .event (.query text) .info ("GET [" ++ text ++ "]") [] ::
        ((Query.read text).keywords.map (Signal.parsing (.query text)) ++
          Signal.parsed (.query text) (Query.ofText text) ++
            [Signal.ended (.query text) (session.query text).1]) := by
  rw [query_snd]
  exact congrArg (_ :: _ :: ·) (signals_queryLog text (Query.read text) (session.query text).1)

/-- The log of a query lies in one span, which bears its text. It tells of the request, of the keywords
that were read, of the tree if the text has one, and of the outcome. -/
theorem signals_query (session : Session) (text : String) :
    let span := Span.query text
    let log := (session.query text).2
    span.name = "db.query" ∧ ("db.query.text", .text text) ∈ span.attributes ∧
      (session.get text).2 = log ∧
      ∃ keywords : List Keyword, keywords.length ≤ 65 ∧
        (∀ query, Query.ofText text = .ok query → keywords = query.heads) ∧
        log.signals = .opened span :: .event span .info ("GET [" ++ text ++ "]") [] ::
          (keywords.map (Signal.parsing span) ++ Signal.parsed span (Query.ofText text) ++
            [Signal.ended span (session.query text).1]) := by
  intro span log
  have text' : ("db.query.text", .text text) ∈ span.attributes := by
    simp [span, Span.attributes, Span.queryText?]
  refine ⟨rfl, text', rfl, (Query.read text).keywords, ?_, ?_, session.signals_query_snd text⟩
  · exact Query.length_keywords_le maxNegations _
  · intro query read
    exact Query.keywords_of_ofText read

end Session

end Quarry
