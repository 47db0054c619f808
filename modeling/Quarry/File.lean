import Quarry.Text.Lines

/-!
What a path can be opened as, and why a file cannot be opened or read. A folder can be opened, but
not read.
-/

namespace Quarry

inductive File where
  | plain (bytes : List UInt8)
  | folder
  deriving DecidableEq, Repr

namespace File

inductive Error where
  | notFound
  | noDevice
  | denied
  | notDirectory
  | isDirectory
  | nameTooLong
  | nulInName
  | notText
  | other (description : String)
  deriving DecidableEq, Repr

def Error.message : Error → String
  | .notFound => "No such file or directory (os error 2)"
  | .noDevice => "No such device or address (os error 6)"
  | .denied => "Permission denied (os error 13)"
  | .notDirectory => "Not a directory (os error 20)"
  | .isDirectory => "Is a directory (os error 21)"
  | .nameTooLong => "File name too long (os error 36)"
  | .nulInName => "file name contained an unexpected NUL byte"
  | .notText => "stream did not contain valid UTF-8"
  | .other description => description

def read : File → Except Error (List UInt8)
  | .plain bytes => .ok bytes
  | .folder => .error .isDirectory

def decode (bytes : List UInt8) : Except Error String :=
  match Text.decode? bytes with
  | some text => .ok text
  | none => .error .notText

def readText (file : File) : Except Error String :=
  file.read.bind decode

end File

end Quarry
