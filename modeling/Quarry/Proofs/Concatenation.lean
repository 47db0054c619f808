import Quarry.Proofs.Encoding
import Quarry.Proofs.Loading
import Quarry.Proofs.TrailingReturn

/-! Loading one stream behind another. The line feed between them ends the last line of the first stream,
which may lose a carriage return by it, and a line says the same without one. Main statement: loading two
streams with a line feed between them is loading one after the other. -/

namespace Quarry

/-! The lines of two streams. -/

namespace Text

variable {bytes : List UInt8} {text : List Char}

theorem lines_append (bytes behind : List UInt8) :
    lines (bytes ++ lineFeed :: behind) = lines (bytes ++ [lineFeed]) ++ lines behind := by
  generalize eq : lines bytes = ls
  have cut := cut_iff.2 eq
  clear eq
  induction cut with
  | nil => exact lines_append_lineFeed List.not_mem_nil behind
  | last filled plain =>
    rw [lines_append_lineFeed plain, lines_append_lineFeed plain]
    rfl
  | ended plain more ih =>
    rw [List.append_assoc, List.append_assoc, List.cons_append, List.cons_append,
      lines_append_lineFeed plain, lines_append_lineFeed plain, ih, List.cons_append]

/-- Where the last line is ended, there are as many lines as line feeds. -/
theorem length_lines_append_lineFeed (bytes : List UInt8) :
    (lines (bytes ++ [lineFeed])).length = (bytes ++ [lineFeed]).count lineFeed := by
  generalize eq : lines bytes = ls
  have cut := cut_iff.2 eq
  clear eq
  induction cut with
  | nil => rfl
  | last filled plain =>
    rw [lines_append_lineFeed plain, List.count_append, List.count_eq_zero.2 plain]
    rfl
  | ended plain more ih =>
    rw [List.append_assoc, List.cons_append, List.count_append, List.count_eq_zero.2 plain,
      List.count_cons_self, Nat.zero_add, lines_append_lineFeed plain, List.length_cons, ih]

theorem trim_append_blank {c : Char} (h : isBlank c = true) (text : List Char) :
    trim (text ++ [c]) = trim text := by
  rw [trim, trim, List.dropWhile_append]
  split
  · next none =>
    rw [List.isEmpty_iff] at none
    rw [none, List.dropWhile_cons_of_pos h]
    rfl
  · exact trimEnd_append_blank h _

/-- A carriage return among the bytes is one in the text. -/
theorem decode?_append_return {text : String} (h : decode? (bytes ++ [carriageReturn]) = some text) :
    ∃ front, text = String.ofList (front ++ ['\r']) ∧ decode? bytes = some (String.ofList front) := by
  have encoded := encode_of_decode? h
  obtain none | ⟨front, c, eq⟩ := List.eq_nil_or_concat' text.toList
  · rw [none] at encoded
    cases List.append_ne_nil_of_right_ne_nil bytes (List.cons_ne_nil _ _) encoded.symm
  · rw [eq, encode, List.flatMap_append, List.flatMap_singleton] at encoded
    have mem : carriageReturn ∈ String.utf8EncodeChar c := by
      have last := congrArg List.getLast? encoded
      rw [List.getLast?_append_of_ne_nil _ String.utf8EncodeChar_ne_nil, List.getLast?_concat] at last
      exact List.mem_of_getLast? last
    obtain rfl : c = '\r' := Char.toNat_inj.1 (toNat_of_mem_utf8EncodeChar (by decide) mem)
    refine ⟨front, ?_, ?_⟩
    · rw [← eq, String.ofList_toList]
    · rw [← List.append_cancel_right encoded]
      exact decode?_encode front

end Text

/-! What is taken from them. -/

namespace Batch

variable {line bytes : List UInt8} {number : Nat}

/-- The same failure in a line that has more lines in front of it. -/
def Error.behind (lines : Nat) : Error → Error
  | .invalidRecord line reason => .invalidRecord (lines + line) reason
  | .unreadable reason => .unreadable reason

theorem readLine_add (lines number : Nat) (line : List UInt8) :
    readLine (lines + number) line = (readLine number line).mapError (Error.behind lines) := by
  unfold readLine
  split
  · rfl
  · split
    · rfl
    · split <;> rfl

theorem ofLines_add (lines number : Nat) (ls : List (List UInt8)) :
    ofLines (lines + number) ls =
      ⟨(ofLines number ls).records, (ofLines number ls).failure.map (Error.behind lines)⟩ := by
  induction ls generalizing number with
  | nil => rfl
  | cons line ls ih =>
    rw [ofLines, ofLines, readLine_add, Nat.add_assoc, ih]
    cases readLine number line with
    | error failure => rfl
    | ok found => cases found <;> rfl

theorem ofLines_append {front : List (List UInt8)} (complete : (ofLines number front).failure = none)
    (back : List (List UInt8)) : ofLines number (front ++ back) =
      ⟨(ofLines number front).records ++ (ofLines (number + front.length) back).records,
        (ofLines (number + front.length) back).failure⟩ := by
  induction front generalizing number with
  | nil => rfl
  | cons line front ih =>
    rw [List.cons_append, List.length_cons, Nat.add_comm front.length, ← Nat.add_assoc]
    rw [ofLines] at complete
    rw [ofLines, ofLines]
    cases read : readLine number line with
    | error failure =>
      rw [read] at complete
      cases complete
    | ok found =>
      rw [read] at complete
      cases found with
      | none => exact ih complete
      | some record =>
        simp only at complete ⊢
        rw [ih complete]
        rfl

/-- What is read from a line is read without the carriage return that it may end with. -/
theorem readLine_dropReturn {found : Option Record} (h : readLine number line = .ok found) :
    readLine number (Text.dropReturn line) = .ok found := by
  unfold Text.dropReturn
  split
  · next last =>
    obtain ⟨bytes, rfl⟩ := List.getLast?_eq_some_iff.1 last
    rw [List.dropLast_concat]
    cases decoded : Text.decode? (bytes ++ [Text.carriageReturn]) with
    | none =>
      rw [readLine_of_not_text number decoded] at h
      cases h
    | some text =>
      obtain ⟨front, rfl, decoded'⟩ := Text.decode?_append_return decoded
      have same : (Text.trim (String.ofList (front ++ ['\r'])).toList).isEmpty =
          (Text.trim (String.ofList front).toList).isEmpty := by
        rw [String.toList_ofList, String.toList_ofList, Text.trim_append_blank (by decide)]
      cases blank : (Text.trim (String.ofList front).toList).isEmpty with
      | true =>
        rw [readLine_of_blank number decoded (same.trans blank)] at h
        rw [readLine_of_blank number decoded' blank, h]
      | false =>
        cases read : Record.ofJson (String.ofList (front ++ ['\r'])) with
        | error reason =>
          rw [readLine_of_refused number decoded (same.trans blank) read] at h
          cases h
        | ok record =>
          rw [readLine_of_record number decoded (same.trans blank) read] at h
          rw [readLine_of_record number decoded' blank (Record.ofJson_of_return read), h]
  · exact h

/-- A line feed behind a stream adds no record and no failure. -/
theorem ofLines_append_lineFeed (complete : (ofLines number (Text.lines bytes)).failure = none) :
    ofLines number (Text.lines (bytes ++ [Text.lineFeed])) = ofLines number (Text.lines bytes) := by
  generalize eq : Text.lines bytes = ls at complete ⊢
  have cut := Text.cut_iff.2 eq
  clear eq
  induction cut generalizing number with
  | nil => rfl
  | @last line filled plain =>
    rw [Text.lines_append_lineFeed plain, Text.endedLine_reverse, Text.lines_nil, ofLines,
      ofLines.eq_2 number line]
    rw [ofLines] at complete
    cases read : readLine number line with
    | error failure =>
      rw [read] at complete
      cases complete
    | ok found => rw [readLine_dropReturn read]
  | @ended line bytes ls plain more ih =>
    rw [List.append_assoc, List.cons_append, Text.lines_append_lineFeed plain,
      Text.endedLine_reverse, ofLines, ofLines]
    rw [ofLines] at complete
    cases read : readLine number (Text.dropReturn line) with
    | error failure => rfl
    | ok found =>
      rw [read] at complete
      cases found with
      | none => exact ih complete
      | some record =>
        simp only at complete ⊢
        rw [ih complete]

theorem ofBytes_append (complete : (ofBytes bytes).failure = none) (behind : List UInt8) :
    ofBytes (bytes ++ Text.lineFeed :: behind) =
      ⟨(ofBytes bytes).records ++ (ofBytes behind).records, (ofBytes behind).failure.map
        (Error.behind ((bytes ++ [Text.lineFeed]).count Text.lineFeed))⟩ := by
  have ended := ofLines_append_lineFeed complete
  have complete' : (ofLines 1 (Text.lines (bytes ++ [Text.lineFeed]))).failure = none := by
    rw [ended]
    exact complete
  rw [ofBytes, Text.lines_append, ofLines_append complete', ended, Nat.add_comm 1, ofLines_add,
    Text.length_lines_append_lineFeed]
  rfl

end Batch

/-! Loading them. -/

namespace Session

variable {session : Session} {bytes : List UInt8} {count : Nat}

theorem receive_eq_ok_iff (session : Session) (batch : Batch) :
    (session.receive batch).1 = .ok count ↔ batch.failure = none ∧ batch.records.length = count := by
  rw [receive]
  cases batch.failure <;> simp

/-- Loading two streams with a line feed between them leaves the session that loading one after the other
leaves. The numbers of records add up, and a failure in the second stream is the same one, on a line
that counts the line feeds in front of the second stream as well. -/
theorem load_append (accepted : (session.load bytes).1 = .ok count) (behind : List UInt8) :
    let after := (session.load bytes).2.1
    let both := session.load (bytes ++ Text.lineFeed :: behind)
    let lines := (bytes ++ [Text.lineFeed]).count Text.lineFeed
    both.2.1 = (after.load behind).2.1 ∧
      both.1 = match (after.load behind).1 with
        | .ok more => .ok (count + more)
        | .error (.unreadable reason) => .error (.unreadable reason)
        | .error (.invalidRecord line reason) => .error (.invalidRecord (lines + line) reason) := by
  intro after both lines
  obtain ⟨complete, rfl⟩ := (session.receive_eq_ok_iff _).1 accepted
  have joined : both = session.receive _ :=
    congrArg session.receive (Batch.ofBytes_append complete behind)
  have store : after.store = session.store.insertAll (Batch.ofBytes bytes).records := rfl
  rw [joined]
  refine ⟨?_, ?_⟩
  · simp only [receive, load, store, Store.insertAll_append]
    rfl
  · simp only [receive, load]
    cases (Batch.ofBytes behind).failure with
    | none => simp
    | some failure => cases failure <;> rfl

/-- The first stream ends in a carriage return, and the second one fails on its second line. -/
theorem load_append_return :
    let session := Session.empty false
    let bytes := Text.encode "[\"a\",\"b\",\"c\",1,2]\r".toList
    let behind := Text.encode "\n[]".toList
    (session.load bytes).1 = .ok 1 ∧ (session.load (bytes ++ Text.lineFeed :: behind)).1 =
      .error (.invalidRecord 3 (.wrongLength 0 "struct Record with 5 elements")) := by
  intro session bytes behind
  have accepted : (session.load bytes).1 = .ok 1 := by decide +kernel
  have refused : ((session.load bytes).2.1.load behind).1 =
      .error (.invalidRecord 2 (.wrongLength 0 "struct Record with 5 elements")) := by decide +kernel
  have whole := (load_append accepted behind).2
  rw [refused] at whole
  exact ⟨accepted, whole⟩

end Session

end Quarry
