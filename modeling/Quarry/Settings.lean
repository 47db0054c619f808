import Quarry.File
import Quarry.File.Path
import Quarry.Json.Reader

/-!
Settings, read from a JSON file: an object in which every field may be absent and none may be
unknown, or a list of the fields in order. Files named relative to the settings file are located in
its folder.
-/

namespace Quarry

open Json

structure Settings where
  logFilter : String
  pretty : Bool
  /-- The paths of the files that are loaded at the start. -/
  seeds : List String
  deriving DecidableEq, Repr

namespace Settings

def default : Settings := ⟨"info", true, []⟩

inductive Key where
  | logFilter
  | pretty
  | seeds
  deriving DecidableEq, Repr

namespace Key

def all : List Key := [.logFilter, .pretty, .seeds]

def name : Key → String
  | .logFilter => "log_filter"
  | .pretty => "pretty"
  | .seeds => "seed_files"

def ofName? (name : String) : Option Key :=
  all.find? fun key => key.name = name

theorem ofName?_name (key : Key) : ofName? key.name = some key := by
  cases key <;> decide

theorem name_inj {a b : Key} (h : a.name = b.name) : a = b := by
  have eq := ofName?_name a
  rw [h, ofName?_name b] at eq
  exact (Option.some.inj eq).symm

theorem name_eq_name_iff {a b : Key} : a.name = b.name ↔ a = b :=
  ⟨name_inj, congrArg name⟩

theorem ofName?_eq_some_iff {name : String} {key : Key} :
    ofName? name = some key ↔ key.name = name := by
  constructor
  · intro h
    simpa using List.find?_some h
  · rintro rfl
    exact ofName?_name key

end Key

/-- The settings that have been read so far. -/
structure Draft where
  logFilter : Option String
  pretty : Option Bool
  seeds : Option (List String)

namespace Draft

def empty : Draft := ⟨none, none, none⟩

def has (draft : Draft) : Key → Bool
  | .logFilter => draft.logFilter.isSome
  | .pretty => draft.pretty.isSome
  | .seeds => draft.seeds.isSome

/-- Reads the value of a key into the draft. -/
def fill (key : Key) (draft : Draft) : Reader Draft :=
  match key with
  | .logFilter => (Reader.text "a string").map fun value => { draft with logFilter := some value }
  | .pretty => Reader.boolean.map fun value => { draft with pretty := some value }
  | .seeds =>
    (Reader.list (Reader.text "path string")).map fun value => { draft with seeds := some value }

def member (draft : Draft) (name : String) : Except Json.Error (Reader Draft) :=
  match Key.ofName? name with
  | some key => if draft.has key then .error (.duplicateField name) else .ok (draft.fill key)
  | none => .error (.unknownField name (Key.all.map Key.name))

def complete (draft : Draft) : Settings where
  logFilter := draft.logFilter.getD default.logFilter
  pretty := draft.pretty.getD default.pretty
  seeds := draft.seeds.getD default.seeds

end Draft

def shape : Shape Draft Settings where
  name := "struct Config"
  start := Draft.empty
  member := Draft.member
  steps := Key.all.map fun key draft => draft.fill key
  short _ draft := .ok draft
  complete draft := .ok draft.complete

def ofJson (text : String) : Except Json.Error Settings :=
  shape.decode text

inductive Error where
  | unreadable (path : String) (reason : File.Error)
  | invalid (path : String) (reason : Json.Error)
  deriving DecidableEq, Repr

def Error.message (error : Error) : String :=
  "Configuration error: " ++ match error with
    | .unreadable path reason => "Cannot read " ++ path ++ ": " ++ reason.message
    | .invalid path reason => "Invalid config " ++ path ++ ": " ++ reason.message

/-- The path of a seed that a settings file names. -/
def locate (path seed : String) : String :=
  match Path.parent? path.toList with
  | none => seed
  | some folder => String.ofList (Path.join folder seed.toList)

/-- The settings in the text of the file with the given path. -/
def ofText (path text : String) : Except Error Settings :=
  match ofJson text with
  | .error reason => .error (.invalid path reason)
  | .ok settings => .ok { settings with seeds := settings.seeds.map (locate path) }

/-- The settings in what the given path was opened as. -/
def ofOpened (path : String) (opened : Except File.Error File) : Except Error Settings :=
  match opened.bind File.readText with
  | .error reason => .error (.unreadable path reason)
  | .ok text => ofText path text

end Settings

end Quarry
