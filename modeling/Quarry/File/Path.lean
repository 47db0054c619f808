import Quarry.Text.Split

/-!
Paths as texts. A path starting with a slash is absolute. Joining a folder and a path puts a slash
between them where one is needed and changes nothing else.
-/

namespace Quarry.Path

def isAbsolute (path : List Char) : Bool :=
  path.head? = some '/'

def components (path : List Char) : List (List Char) :=
  Text.splitAt '/' path

/-- The reversed path without the slashes and the dots at its end that name no component of their
own. The slash of the root and the dot at the front of a path stay. -/
def trimReversed : List Char → List Char
  | ['/'] => ['/']
  | '/' :: path => trimReversed path
  | '.' :: '/' :: path => trimReversed ('/' :: path)
  | path => path

/-- The folder that a path names something in. The root and the empty path are in none. -/
def parent? (path : List Char) : Option (List Char) :=
  match trimReversed path.reverse with
  | [] => none
  | ['/'] => none
  | trimmed => some (trimReversed (trimmed.dropWhile (· ≠ '/'))).reverse

/-- The path as seen from a folder. -/
def join (folder path : List Char) : List Char :=
  if isAbsolute path || folder.isEmpty then path
  else if folder.getLast? = some '/' then folder ++ path
  else folder ++ '/' :: path

theorem join_of_isAbsolute {path : List Char} (h : isAbsolute path = true) (folder : List Char) :
    join folder path = path := by
  simp [join, h]

theorem join_of_relative {folder path : List Char} (h : isAbsolute path = false) (named : folder ≠ []) :
    join folder path = folder ++ ((if folder.getLast? = some '/' then [] else ['/']) ++ path) := by
  by_cases slash : folder.getLast? = some '/' <;> simp [join, h, named, slash]

@[simp] theorem nil_join (path : List Char) : join [] path = path := by
  simp [join]

end Quarry.Path
