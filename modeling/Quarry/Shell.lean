import Quarry.Request

/-!
The shell: a session steered by lines of text. A blank line is passed over and every other line gets
one response. A refused request is reported in its response, and the shell goes on; it ends with the
input, or at a line that is no text. The report of a refused record ends with the place where reading
it stopped; which place this is, is left to the caller.
-/

namespace Quarry.Shell

inductive Command where
  | get (query : String)
  | post (data : String)
  deriving DecidableEq, Repr

/-- The command in a line, which is cut at its first space. -/
def Command.ofText? (line : List Char) : Option Command :=
  match line.dropWhile (· ≠ ' ') with
  | [] => none
  | _ :: argument =>
    let word := line.takeWhile (· ≠ ' ')
    if word = "GET".toList then some (.get (String.ofList argument))
    else if word = "POST".toList then some (.post (String.ofList argument))
    else none

def usage : String := "expected GET <query> or POST <json>"

variable (place : String → Option Json.Place)

def Command.run (session : Session) : Command → Except String String × Session
  | .get query =>
    (((session.get query).1).mapError fun reason => (RequestError.query reason).message, session)
  | .post data =>
    let (result, session, _) := session.post data
    ((result.map fun _ => "true").mapError fun reason =>
      Json.atPlace (RequestError.json reason).message (place data), session)

/-- The response to a line that is not blank. -/
def respond (session : Session) (line : List Char) : String × Session :=
  match Command.ofText? line with
  | none => ("error: " ++ usage, session)
  | some command =>
    match command.run place session with
    | (.ok text, session) => (text, session)
    | (.error message, session) => ("error: " ++ message, session)

/-- The response to a line, if it gets one. -/
def step (session : Session) (line : List UInt8) :
    Except File.Error (Option String × Session) :=
  match File.decode line with
  | .error reason => .error reason
  | .ok text =>
    let trimmed := Text.trim text.toList
    if trimmed.isEmpty then .ok (none, session)
    else
      let (response, session) := respond place session trimmed
      .ok (some response, session)

structure Transcript where
  responses : List String
  session : Session
  /-- Why the input could not be read to its end. -/
  failure : Option File.Error
  deriving DecidableEq, Repr

def run (session : Session) : List (List UInt8) → Transcript
  | [] => ⟨[], session, none⟩
  | line :: lines =>
    match step place session line with
    | .error reason => ⟨[], session, some reason⟩
    | .ok (response, session) =>
      let transcript := run session lines
      { transcript with responses := response.toList ++ transcript.responses }

/-- What is written for a response. -/
def written (response : String) : String :=
  response ++ "\n"

/-- What the shell writes: every response on lines of its own. -/
def Transcript.output (transcript : Transcript) : String :=
  String.join (transcript.responses.map written)

end Quarry.Shell
