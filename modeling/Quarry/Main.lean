import Quarry.Program

/-!
The program on a real disk, with a real terminal. The shell answers each line before it reads the
next. It does not tell where reading a refused record stopped.
-/

namespace Quarry.Terminal

/-- Whether a code stands for the error with the given number. Opening a file gives the number with
its sign turned, reading gives the number itself. -/
def hasNumber (code number : UInt32) : Bool :=
  code = number || code = 0 - number

def fileError : IO.Error → File.Error
  | .noFileOrDirectory _ _ _ => .notFound
  | .noSuchThing _ code details => if hasNumber code 6 then .noDevice else .other details
  | .permissionDenied _ _ _ => .denied
  | .inappropriateType _ code details =>
    if hasNumber code 20 then .notDirectory
    else if hasNumber code 21 then .isDirectory
    else .other details
  | .invalidArgument _ code details =>
    if hasNumber code 36 then .nameTooLong else .other details
  | e => .other (toString e)

def openFile (path : String) : IO (Except File.Error File) := do
  if '\x00' ∈ path.toList then return .error .nulInName
  match ← (IO.FS.readBinFile path).toBaseIO with
  | .ok bytes => return .ok (.plain bytes.toList)
  | .error e =>
    match fileError e with
    | .isDirectory => return .ok .folder
    | reason => return .error reason

/-- Reads up to the next line feed or the end of the input; `start` was read before, last byte
first. -/
partial def readLine (input : IO.FS.Stream) (start : List UInt8) : IO (List UInt8) := do
  match (← input.read 1).toList with
  | byte :: _ =>
    if byte = Text.lineFeed then return (byte :: start).reverse
    else readLine input (byte :: start)
  | [] => return start.reverse

def report (failure : Failure) : IO UInt32 := do
  (← IO.getStderr).putStr failure.report
  return 1

partial def shell (session : Session) (input output : IO.FS.Stream) : IO UInt32 := do
  match Text.lines (← readLine input []) with
  | [] => return 0
  | line :: _ =>
    match Shell.step (fun _ => none) session line with
    | .error reason => report (.ofFile reason)
    | .ok (response, session) =>
      match response with
      | some text =>
        output.putStr (Shell.written text)
        output.flush
      | none => pure ()
      shell session input output

end Quarry.Terminal

open Quarry in
def main (arguments : List String) : IO UInt32 := do
  let environment ← Environment.read fun name => IO.getEnv name
  match ← Program.start Terminal.openFile environment arguments with
  | .finished outcome =>
    (← IO.getStdout).putStr outcome.output
    (← IO.getStderr).putStr outcome.errors
    return UInt32.ofNat outcome.code
  | .shell session => Terminal.shell session (← IO.getStdin) (← IO.getStdout)
