import Quarry.File
import Quarry.File.Host

/-!
A tree of files below a working folder, on a host. A folder of the tree is there as long as a file is
in it. A path is followed component by component, and every component but the last must be a folder.
-/

namespace Quarry

structure Tree where
  /-- The files below the working folder with the components of their names. -/
  files : List (List (List Char) × List UInt8)
  host : Host

namespace Tree

/-- The most bytes that a component of a path may have. -/
def maxComponent : Nat := 255

/-- The number of bytes that a path stays below. -/
def pathLimit : Nat := 4096

/-- The tree with the given files on the usual host. -/
def ofList (files : List (String × List UInt8)) : Tree where
  files := files.map fun (name, bytes) =>
    ((Path.components name.toList).filter fun part => part ≠ [] && part ≠ ['.'], bytes)
  host := .usual

def file? (tree : Tree) (path : List (List Char)) : Option (List UInt8) :=
  (tree.files.find? fun (name, _) => name = path).map (·.2)

def isKnown (tree : Tree) (path : List (List Char)) : Bool :=
  path.isEmpty || tree.files.any fun (name, _) => path.isPrefixOf name

def isFolder (tree : Tree) : Place → Bool
  | .inside path => tree.isKnown path && (tree.file? path).isNone
  | .outside path => tree.host.entry? path = some .folder

def tooLong (component : List Char) : Bool :=
  maxComponent < (String.ofList component).utf8ByteSize

/-- The folder above a place. Nothing is above the root but the root. -/
def above (tree : Tree) : Place → Place
  | .inside [] => .outside tree.host.above
  | .inside path => .inside path.dropLast
  | .outside path => .outside path.dropLast

/-- What a folder holds under a name. -/
def below? (tree : Tree) (name : List Char) : Place → Option Place
  | .inside path =>
    if tree.isKnown (path ++ [name]) then some (.inside (path ++ [name])) else none
  | .outside path =>
    match tree.host.link? (path ++ [name]) with
    | some target => some target
    | none => (tree.host.entry? (path ++ [name])).map fun _ => .outside (path ++ [name])

/-- Follows one component of a path. -/
def enter (tree : Tree) (place : Place) (component : List Char) : Except File.Error Place :=
  if !tree.isFolder place then .error .notDirectory
  else if component = [] ∨ component = ['.'] then .ok place
  else if component = ['.', '.'] then .ok (tree.above place)
  else if tooLong component then .error .nameTooLong
  else (tree.below? component place).elim (.error .notFound) .ok

def find (tree : Tree) (path : String) : Except File.Error Place := do
  let letters := path.toList
  if '\x00' ∈ letters then throw .nulInName
  if pathLimit ≤ path.utf8ByteSize then throw .nameTooLong
  if letters.isEmpty then throw .notFound
  let start : Place := if Path.isAbsolute letters then .outside [] else .inside []
  (Path.components letters).foldlM tree.enter start

def openPlace (tree : Tree) : Place → StateM (List UInt8) (Except File.Error File)
  | .inside path => return .ok ((tree.file? path).elim .folder .plain)
  | .outside path => (tree.host.entry? path).elim (return .error .notFound) Host.Entry.openFile

/-- Opens what a path leads to. The state is the input that has not been read. -/
def openFile (tree : Tree) (path : String) : StateM (List UInt8) (Except File.Error File) :=
  match tree.find path with
  | .error reason => return .error reason
  | .ok place => tree.openPlace place

end Tree

end Quarry
