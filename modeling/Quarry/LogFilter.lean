import Quarry.Number.Integer
import Quarry.Number.Numeral
import Quarry.Pattern
import Quarry.Text.Alphanumeric
import Quarry.Text.Blank
import Quarry.Text.Bytes
import Quarry.Text.Split

/-!
Log filters: directives with commas between them. A directive is a level, or a target and a span, of
which one may be missing, with a level after an equals sign. The span may name a field and the value
that it should have, which is a number or a pattern. Only whether a filter is valid is decided here.

Blanks around a directive do not count, but the texts in it are cut from the whole directive at places
counted from the first character that is not blank. So a level behind an equals sign is valid only if
there are no blanks around.
-/

namespace Quarry.LogFilter

inductive Error where
  | invalidDirective
  | invalidLevel
  | invalidField (refusal : Pattern.Refusal)
  deriving DecidableEq, Repr

def Error.message : Error → String
  | .invalidDirective => "invalid filter directive"
  | .invalidLevel =>
    "error parsing level filter: expected one of \"off\", \"error\", \"warn\", \"info\", " ++
      "\"debug\", \"trace\", or a number 0-5"
  | .invalidField refusal => "invalid field filter: " ++ refusal.message

/-- The messages from the outermost error inwards. A level that cannot be read is an error of its own,
within that of the directive and with the same message. -/
def Error.causes (error : Error) : List String :=
  match error with
  | .invalidDirective => [error.message]
  | .invalidLevel => [error.message, error.message]
  | .invalidField refusal => error.message :: refusal.causes

def levelNames : List String := ["off", "error", "warn", "info", "debug", "trace"]

/-- The empty text stands for every level. -/
def isLevel (text : List Char) : Bool :=
  let number := match text with
    | '-' :: _ => none
    | _ => Integer.ofText? text
  text.isEmpty || number.any (· ≤ 5) ||
    levelNames.any fun name => name.toList = text.map Char.toLower

/-- A field is a name, alone or with a value behind an equals sign. A second equals sign ends the
value. -/
def checkField (field : List Char) : Except Error Unit :=
  match Text.splitAt '=' field with
  | _ :: value :: _ =>
    if Numeral.isNumeral value then .ok () else (Pattern.check value).mapError .invalidField
  | _ => .ok ()

/-- What a directive has been read up to. Places are those where a text starts. -/
inductive State where
  | start
  | target
  | span
  | field (place : Nat)
  | fields
  | afterSpan
  | level (place : Nat)
  deriving DecidableEq, Repr

def startsTarget (c : Char) : Bool :=
  c = '-' || c = ':' || c = '_' || Text.isAlphanumeric c

/-- The state behind a character that stands at a place. -/
def State.next (directive : List Char) (state : State) (place : Nat) (c : Char) :
    Except Error State :=
  match state with
  | .start =>
    if c = '[' then .ok .span
    else if startsTarget c then .ok .target
    else .error .invalidDirective
  | .target => .ok (if c = '=' then .level (place + 1) else if c = '[' then .span else .target)
  | .span =>
    .ok (if c = ']' then .afterSpan else if c = '\x7b' then .field (place + 1) else .span)
  | .field first =>
    if c = '\x7d' then
      if first = place then .error .invalidDirective
      else (checkField (Text.slice directive first place)).map fun _ => .fields
    else .ok (.field first)
  | .fields => if c = ']' then .ok .afterSpan else .error .invalidDirective
  | .afterSpan => if c = '=' then .ok (.level (place + 1)) else .error .invalidDirective
  | .level first => .ok (.level first)

def State.finish (directive : List Char) : State → Except Error Unit
  | .target | .afterSpan => .ok ()
  | .level first =>
    if isLevel (Text.dropBytes first directive) then .ok () else .error .invalidLevel
  | .start | .span | .field _ | .fields => .error .invalidDirective

def State.run (directive : List Char) (state : State) (place : Nat) :
    List Char → Except Error Unit
  | [] => state.finish directive
  | c :: text => do
    State.run directive (← state.next directive place c) (place + c.utf8Size) text

def checkDirective (directive : List Char) : Except Error Unit :=
  State.start.run directive 0 (Text.trim directive)

def check (filter : String) : Except Error Unit :=
  let directives := (Text.splitAt ',' filter.toList).filter fun directive => !directive.isEmpty
  directives.forM checkDirective

end Quarry.LogFilter
