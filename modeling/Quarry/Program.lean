import Quarry.CommandLine.Help
import Quarry.File.Tree
import Quarry.Program.Failure
import Quarry.Shell

/-!
The program: it reads its arguments and settings, loads the files in order, and then answers one
query or runs the shell. Nothing is written before every file is loaded. How files are opened is left
to the caller, so that a run can be looked at without a disk.
-/

namespace Quarry

/-- What the program takes from its environment. -/
structure Environment where
  /-- The settings file if no option names one. -/
  settings : Option String
  logFilter : Option String
  deriving DecidableEq, Repr

def Environment.read {m : Type → Type} [Monad m] (lookup : String → m (Option String)) :
    m Environment := do
  return ⟨← lookup "DATAQUERY_CONFIG", ← lookup "RUST_LOG"⟩

structure Outcome where
  code : Nat
  output : String
  errors : String
  deriving DecidableEq, Repr

def Outcome.success (output : String) : Outcome := ⟨0, output, ""⟩

def Outcome.failed (output : String) (failure : Failure) : Outcome := ⟨1, output, failure.report⟩

def Shell.Transcript.outcome (transcript : Transcript) : Outcome :=
  match transcript.failure with
  | none => .success transcript.output
  | some reason => .failed transcript.output (.ofFile reason)

/-- The outcome of one query. -/
def Session.outcome (session : Session) (query : String) : Outcome :=
  match (session.get query).1 with
  | .ok text => .success (text ++ "\n")
  | .error reason => .failed "" (.ofRequest (.query reason))

namespace Program

/-- The filter of the environment counts if it is valid, and otherwise that of the settings. -/
def checkFilter (environment : Environment) (settings : Settings) : Except Failure Unit :=
  let given := environment.logFilter.any fun filter => (LogFilter.check filter).isOk
  if given then .ok () else (LogFilter.check settings.logFilter).mapError .ofFilter

/-- The session after loading what a path was opened as. -/
def loadOpened (session : Session) (path : String) (opened : Except File.Error File) :
    Except Failure Session :=
  match opened with
  | .error reason => .error (.cannotOpen path reason)
  | .ok file =>
    match session.receive (.ofFile file) with
    | (.ok _, session, _) => .ok session
    | (.error e, _, _) => .error (.cannotLoad path e)

/-- What is left to do when the files are loaded. -/
inductive Start where
  | finished (outcome : Outcome)
  | shell (session : Session)
  deriving DecidableEq, Repr

variable {m : Type → Type} [Monad m] (openFile : String → m (Except File.Error File))

def readSettings : Option String → ExceptT Failure m Settings
  | none => return .default
  | some path => do
    let opened ← openFile path
    ofExcept ((Settings.ofOpened path opened).mapError .ofSettings)

def loadAll (session : Session) : List String → ExceptT Failure m Session
  | [] => return session
  | path :: paths => do
    let opened ← openFile path
    let session ← ofExcept (loadOpened session path opened)
    loadAll session paths

def prepare (environment : Environment) (invocation : Invocation) : ExceptT Failure m Session := do
  let settings ← readSettings openFile invocation.settings
  ofExcept (checkFilter environment settings)
  let session := Session.empty (settings.pretty && !invocation.compact)
  loadAll openFile session (settings.seeds ++ invocation.loads)

def start (environment : Environment) (arguments : List String) : m Start := do
  match CommandLine.read environment.settings arguments with
  | .rejected => return .finished ⟨2, "", usage⟩
  | .version => return .finished (.success (version ++ "\n"))
  | .help topic => return .finished (.success (topic.text environment.settings))
  | .run invocation =>
    match ← (prepare openFile environment invocation).run with
    | .error failure => return .finished (.failed "" failure)
    | .ok session =>
      match invocation.task with
      | .query text => return .finished (session.outcome text)
      | .shell => return .shell session

/-- A whole run. The shell answers the input that is left when the files are loaded. -/
def run (place : String → Option Json.Place) (readInput : m (List UInt8))
    (environment : Environment) (arguments : List String) : m Outcome := do
  match ← start openFile environment arguments with
  | .finished outcome => return outcome
  | .shell session => return (Shell.run place session (Text.lines (← readInput))).outcome

/-- A run in the working folder of a tree, which does not tell where reading a refused record stopped.
The state is the input that has not been read. -/
def runIn (tree : Tree) (environment : Environment) (arguments : List String)
    (input : List UInt8) : Outcome :=
  ((run tree.openFile (fun _ => none) get environment arguments).run input).1

end Program

end Quarry
