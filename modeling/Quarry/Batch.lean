import Quarry.File
import Quarry.Record.Json
import Quarry.Text.Blank

/-!
A batch of records: one JSON record a line, with blank lines between them. Reading stops at the first
line that is no record, and the records before it are kept.
-/

namespace Quarry

inductive Batch.Error where
  | invalidRecord (line : Nat) (reason : Json.Error)
  | unreadable (reason : File.Error)
  deriving DecidableEq, Repr

namespace Batch.Error

def message : Batch.Error → String
  | .invalidRecord line reason =>
    "Invalid record on line " ++ toString line ++ ": " ++ reason.message
  | .unreadable reason => "I/O error: " ++ reason.message

/-- The message of what lies behind the error. -/
def cause : Batch.Error → String
  | .invalidRecord _ reason => reason.message
  | .unreadable reason => reason.message

end Batch.Error

structure Batch where
  records : List Record
  /-- Why reading stopped before the end. -/
  failure : Option Batch.Error
  deriving DecidableEq, Repr

namespace Batch

/-- Reads one line. A blank line holds no record. -/
def readLine (number : Nat) (line : List UInt8) : Except Error (Option Record) :=
  match File.decode line with
  | .error reason => .error (.unreadable reason)
  | .ok text =>
    if (Text.trim text.toList).isEmpty then .ok none
    else
      match Record.ofJson text with
      | .error reason => .error (.invalidRecord number reason)
      | .ok record => .ok (some record)

/-- Reads lines, of which the first has the given number. -/
def ofLines (number : Nat) : List (List UInt8) → Batch
  | [] => ⟨[], none⟩
  | line :: lines =>
    match readLine number line with
    | .error failure => ⟨[], some failure⟩
    | .ok none => ofLines (number + 1) lines
    | .ok (some record) =>
      let batch := ofLines (number + 1) lines
      ⟨record :: batch.records, batch.failure⟩

def ofBytes (bytes : List UInt8) : Batch :=
  ofLines 1 (Text.lines bytes)

def ofFile (file : File) : Batch :=
  match file.read with
  | .ok bytes => ofBytes bytes
  | .error reason => ⟨[], some (.unreadable reason)⟩

end Batch

end Quarry
