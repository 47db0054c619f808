import Quarry.Request
import Quarry.Settings
import Quarry.LogFilter

/-!
A failure of the program and its report: the message, and the causes below it, numbered if there is
more than one. The report does not tell where in a file a bad text was met.
-/

namespace Quarry

structure Failure where
  message : String
  /-- The messages of the causes, from the nearest to the farthest. -/
  causes : List String
  deriving DecidableEq, Repr

namespace Failure

def ofFile (reason : File.Error) : Failure := ⟨reason.message, []⟩

def ofRequest (error : RequestError) : Failure := ⟨error.message, [error.cause]⟩

def ofSettings (error : Settings.Error) : Failure := ⟨error.message, []⟩

def ofFilter (error : LogFilter.Error) : Failure := ⟨"invalid log filter", error.causes⟩

def cannotOpen (path : String) (reason : File.Error) : Failure :=
  ⟨"cannot open " ++ path, [reason.message]⟩

def cannotLoad (path : String) (error : Batch.Error) : Failure :=
  ⟨"cannot load " ++ path, [error.message, error.cause]⟩

/-- A cause behind its label, with its further lines indented as far. -/
def labelled (label cause : String) : String :=
  let indent := List.replicate label.length ' '
  label ++ String.ofList (cause.toList.flatMap fun c => if c = '\n' then '\n' :: indent else [c])

/-- The label of one of several causes: its number, up to the fifth column. -/
def numberLabel (number : Nat) : String :=
  let digits := toString number
  String.ofList (List.replicate (5 - digits.length) ' ') ++ digits ++ ": "

def causeLines (causes : List String) : List String :=
  match causes with
  | [cause] => [labelled "    " cause]
  | causes => causes.zipIdx.map fun (cause, number) => labelled (numberLabel number) cause

def report (failure : Failure) : String :=
  let lines := ("Error: " ++ failure.message) ::
    if failure.causes.isEmpty then [] else "" :: "Caused by:" :: causeLines failure.causes
  String.join (lines.map fun line => line ++ "\n")

end Failure

end Quarry
