/-!
The command line: options, then a task with its arguments. A value that stands as an argument of its
own is looked at only when the next option or the end of the options has been reached, so a request
for help behind it comes first.
-/

namespace Quarry

inductive Task where
  | query (text : String)
  | shell
  deriving DecidableEq, Repr

structure Invocation where
  /-- The path of the settings file. -/
  settings : Option String
  /-- The paths of the files to load, in order. -/
  loads : List String
  compact : Bool
  task : Task
  deriving DecidableEq, Repr

inductive HelpTopic where
  | program
  | query
  | shell
  | help
  deriving DecidableEq, Repr

inductive CommandLine where
  | run (invocation : Invocation)
  | help (topic : HelpTopic)
  | version
  | rejected
  deriving DecidableEq, Repr

namespace CommandLine

structure Options where
  settings : Option String
  loads : List String
  compact : Bool
  deriving DecidableEq, Repr

def Options.empty : Options := ⟨none, [], false⟩

/-- The options that take a path. -/
inductive PathOption where
  | settings
  | load
  deriving DecidableEq, Repr

def PathOption.ofName? (name : List Char) : Option PathOption :=
  if name = "config".toList then some .settings
  else if name = "load".toList then some .load
  else none

namespace Options

/-- Accepts a path, which must not be empty. There is at most one settings file. -/
def accept (options : Options) (option : PathOption) (path : String) : Option Options :=
  if path.isEmpty then none
  else
    match option with
    | .load => some { options with loads := options.loads ++ [path] }
    | .settings =>
      if options.settings.isSome then none else some { options with settings := some path }

/-- Accepts the path that was given last, if there is one. -/
def settle (options : Options) : Option (PathOption × String) → Option Options
  | none => some options
  | some (option, path) => options.accept option path

def setCompact (options : Options) : Option Options :=
  if options.compact then none else some { options with compact := true }

end Options

/-- What starts with a hyphen is no value, but a hyphen alone is. -/
def isValue (argument : String) : Bool :=
  match argument.toList with
  | '-' :: _ :: _ => false
  | _ => true

/-- What one argument in front of the task is. -/
inductive Argument where
  /-- An option with the path attached to it. -/
  | attached (option : PathOption) (path : List Char)
  /-- An option whose path is the next argument. -/
  | separate (option : PathOption)
  | compact
  | help
  | version
  | word
  | unknown
  deriving DecidableEq, Repr

def Argument.ofPathOption (option : PathOption) : List Char → Argument
  | [] => .separate option
  | '=' :: path => .attached option path
  | path => .attached option path

def Argument.ofLong (text : List Char) : Argument :=
  let name := text.takeWhile (· ≠ '=')
  let attachment := text.dropWhile (· ≠ '=')
  match PathOption.ofName? name with
  | some option => ofPathOption option attachment
  | none =>
    if !attachment.isEmpty then .unknown
    else if name = "compact".toList then .compact
    else if name = "help".toList then .help
    else if name = "version".toList then .version
    else .unknown

def Argument.ofText (argument : String) : Argument :=
  match argument.toList with
  | '-' :: '-' :: name => .ofLong name
  | '-' :: 'l' :: attachment => .ofPathOption .load attachment
  | '-' :: 'h' :: _ => .help
  | '-' :: 'V' :: _ => .version
  | '-' :: _ :: _ => .unknown
  | _ => .word

/-- Whether an argument of a task asks for help. -/
def asksForHelp (argument : String) : Bool :=
  match argument.toList with
  | '-' :: 'h' :: _ => true
  | text => text = "--help".toList

/-- Reads the arguments of the query task; `text` is the query if it was there. -/
def readQuery (text : Option String) (arguments : List String) : Except CommandLine Task :=
  match arguments with
  | [] => match text with
    | some text => .ok (.query text)
    | none => .error .rejected
  | argument :: rest =>
    if argument = "--" then
      match text, rest with
      | some text, [] => .ok (.query text)
      | none, [text] => .ok (.query text)
      | _, _ => .error .rejected
    else if isValue argument then
      match text with
      | none => readQuery (some argument) rest
      | some _ => .error .rejected
    else .error (if asksForHelp argument then .help .query else .rejected)

def readShell (arguments : List String) : Except CommandLine Task :=
  match arguments with
  | [] => .ok .shell
  | ["--"] => .ok .shell
  | argument :: _ => .error (if asksForHelp argument then .help .shell else .rejected)

def readHelp (arguments : List String) : CommandLine :=
  match arguments with
  | [] => .help .program
  | ["query"] => .help .query
  | ["shell"] => .help .shell
  | ["help"] => .help .help
  | _ => .rejected

/-- The options with the default for the settings file, which must not be an empty path either. -/
def Options.withDefault (options : Options) (settings : Option String) : Option Options :=
  match options.settings, settings with
  | none, some path => options.accept .settings path
  | _, _ => some options

/-- Puts the task to the options in front of it. -/
def finish (default : Option String) (options : Option Options) (task : Except CommandLine Task) :
    CommandLine :=
  match task with
  | .error result => result
  | .ok task =>
    match options.bind fun options => options.withDefault default with
    | none => .rejected
    | some ⟨settings, loads, compact⟩ => .run ⟨settings, loads, compact, task⟩

/-- Reads the arguments after the given options; the path in `last` is not yet one of them. -/
def readOptions (default : Option String) (options : Options)
    (last : Option (PathOption × String)) (arguments : List String) : CommandLine :=
  match arguments with
  | [] => .rejected
  | argument :: rest =>
    match Argument.ofText argument with
    | .word =>
      if argument = "query" then finish default (options.settle last) (readQuery none rest)
      else if argument = "shell" then finish default (options.settle last) (readShell rest)
      else if argument = "help" then readHelp rest
      else .rejected
    | .unknown => .rejected
    | kind =>
      match options.settle last with
      | none => .rejected
      | some options =>
        match kind, rest with
        | .help, _ => .help .program
        | .version, _ => .version
        | .compact, rest =>
          match options.setCompact with
          | none => .rejected
          | some options => readOptions default options none rest
        | .attached option path, rest =>
          match options.accept option (String.ofList path) with
          | none => .rejected
          | some options => readOptions default options none rest
        | .separate option, path :: rest =>
          if isValue path then readOptions default options (some (option, path)) rest
          else .rejected
        | _, _ => .rejected
termination_by arguments.length

/-- Reads the arguments of the program; `default` is the settings file if no option names one. -/
def read (default : Option String) (arguments : List String) : CommandLine :=
  readOptions default .empty none arguments

end CommandLine

end Quarry
