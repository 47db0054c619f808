import Quarry.Batch

/-! What is taken from a batch. A line is no text, blank, refused, or a record, and reading stops at
the first line that is no text or refused. Main statement: the records of a batch are those of the
lines before it that are not blank. -/

namespace Quarry.Batch

variable {line : List UInt8} {text : String}

/-- The record in a line that holds one. -/
def record? (line : List UInt8) : Option Record :=
  (Text.decode? line).bind fun text => (Record.ofJson text).toOption

def isBlank (line : List UInt8) : Bool :=
  (Text.decode? line).any fun text => (Text.trim text.toList).isEmpty

/-- The records of the lines that are not blank, as long as these hold records. -/
def accepted (lines : List (List UInt8)) : List Record :=
  ((lines.filter fun line => !isBlank line).takeWhile fun line => (record? line).isSome).filterMap
    record?

theorem readLine_of_not_text (number : Nat) (h : Text.decode? line = none) :
    readLine number line = .error (.unreadable .notText) := by
  simp [readLine, File.decode, h]

theorem readLine_of_blank (number : Nat) (h : Text.decode? line = some text)
    (blank : (Text.trim text.toList).isEmpty = true) : readLine number line = .ok none := by
  simp only [readLine, File.decode, h, if_pos blank]

theorem readLine_of_refused {reason : Json.Error} (number : Nat) (h : Text.decode? line = some text)
    (filled : (Text.trim text.toList).isEmpty = false) (refused : Record.ofJson text = .error reason) :
    readLine number line = .error (.invalidRecord number reason) := by
  simp [readLine, File.decode, h, filled, refused]

theorem readLine_of_record {record : Record} (number : Nat) (h : Text.decode? line = some text)
    (filled : (Text.trim text.toList).isEmpty = false) (read : Record.ofJson text = .ok record) :
    readLine number line = .ok (some record) := by
  simp [readLine, File.decode, h, filled, read]

theorem records_ofLines (number : Nat) (lines : List (List UInt8)) :
    (ofLines number lines).records = accepted lines := by
  induction lines generalizing number with
  | nil => rfl
  | cons line lines ih =>
    rw [ofLines]
    cases decoded : Text.decode? line with
    | none =>
      rw [readLine_of_not_text number decoded]
      simp [accepted, isBlank, record?, decoded]
    | some text =>
      cases blank : (Text.trim text.toList).isEmpty with
      | true =>
        rw [readLine_of_blank number decoded blank]
        simp only [ih]
        simp [accepted, isBlank, decoded, blank]
      | false =>
        cases read : Record.ofJson text with
        | error reason =>
          rw [readLine_of_refused number decoded blank read]
          simp [accepted, isBlank, record?, decoded, blank, read, Except.toOption]
        | ok record =>
          rw [readLine_of_record number decoded blank read]
          simp only [ih]
          simp [accepted, isBlank, record?, decoded, blank, read, Except.toOption]

end Quarry.Batch
