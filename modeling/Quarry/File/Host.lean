import Quarry.File
import Quarry.File.Path

/-!
What is there around the working folder: folders, files and devices, named from the root, and names
that stand for another place. A device is read to its end, and what was read of the program's input is
gone for whoever reads it next.
-/

namespace Quarry

/-- Where a path has led: to something below the working folder, or to something else, named from
the root. -/
inductive Place where
  | inside (path : List (List Char))
  | outside (path : List (List Char))
  deriving DecidableEq, Repr

namespace Host

inductive Entry where
  | folder
  | file (bytes : List UInt8)
  /-- The input of the program. -/
  | input
  /-- What cannot be opened. -/
  | closed (reason : File.Error)
  deriving DecidableEq, Repr

end Host

structure Host where
  entries : List (String × Host.Entry)
  /-- The names that stand for another place. -/
  links : List (String × Place)
  /-- The folder that the working folder is in. -/
  above : List (List Char)

namespace Host

def folders : List String :=
  ["bin", "boot", "dev", "dev/pts", "dev/shm", "etc", "home", "lib", "media", "mnt", "opt", "proc",
    "proc/self", "proc/self/fd", "root", "run", "sbin", "srv", "sys", "tmp", "usr", "usr/bin",
    "usr/lib", "usr/local", "usr/sbin", "usr/share", "var", "var/cache", "var/lib", "var/log",
    "var/spool", "var/tmp"]

/-- The null device reads as an empty file. A run has no terminal. -/
def devices : List (String × Entry) :=
  [("dev/null", .file []), ("dev/tty", .closed .noDevice), ("proc/self/fd/0", .input)]

/-- The folders that there usually are, with a few devices and without files. The working folder is a
temporary one. -/
def usual : Host where
  entries := devices ++ folders.map fun name => (name, .folder)
  links := [("dev/fd", .outside ["proc".toList, "self".toList, "fd".toList]),
    ("dev/stdin", .outside ["proc".toList, "self".toList, "fd".toList, "0".toList]),
    ("proc/self/cwd", .inside []),
    ("proc/self/root", .outside [])]
  above := ["tmp".toList]

def lookup {α : Type} (table : List (String × α)) (path : List (List Char)) : Option α :=
  (table.find? fun (name, _) => Path.components name.toList = path).map (·.2)

variable (host : Host)

def link? (path : List (List Char)) : Option Place := lookup host.links path

def entry? (path : List (List Char)) : Option Entry :=
  if path.isEmpty then some .folder else lookup host.entries path

/-- Opens an entry. The state is the input that has not been read. -/
def Entry.openFile : Entry → StateM (List UInt8) (Except File.Error File)
  | .folder => return .ok .folder
  | .file bytes => return .ok (.plain bytes)
  | .input => return .ok (.plain (← getModify fun _ => []))
  | .closed reason => return .error reason

end Host

end Quarry
