import Quarry.Number.Shortest
import Quarry.Text.Quoted

/-!
Why a JSON text is refused: its syntax is broken, or it holds something else than what was wanted.
Reading stops at the first reason met from left to right.
-/

namespace Quarry.Json

/-- A value that was not wanted. The content of a list or an object is not looked at. -/
inductive Found where
  | null
  | boolean (value : Bool)
  | integer (value : Int)
  | decimal (negative : Bool) (value : Binary64)
  | text (value : String)
  | list
  | object
  deriving DecidableEq, Repr

inductive Error where
  | endInValue
  | endInObject
  | endInList
  | endInText
  | expectedValue
  | expectedWord
  | expectedKey
  | expectedColon
  | expectedObjectEnd
  | expectedListEnd
  | trailingComma
  | trailingCharacters
  | invalidNumber
  | numberOutOfRange
  | invalidEscape
  | controlCharacter
  | loneSurrogate
  | unfinishedSurrogate
  | wrongType (found : Found) (wanted : String)
  | wrongValue (found : Found) (wanted : String)
  | wrongLength (length : Nat) (wanted : String)
  | missingField (name : String)
  | duplicateField (name : String)
  | unknownField (name : String) (known : List String)
  deriving DecidableEq, Repr

def inBackticks (text : String) : String :=
  "\x60" ++ text ++ "\x60"

def Found.describe : Found → String
  | .null => "null"
  | .boolean value => "boolean " ++ inBackticks (if value then "true" else "false")
  | .integer value => "integer " ++ inBackticks (toString value)
  | .decimal negative value =>
    "floating point " ++
      inBackticks ((if negative then "-" else "") ++ String.ofList value.letters)
  | .text value => "string " ++ Text.quote value
  | .list => "sequence"
  | .object => "map"

/-- What is wrong. Where in the text it was met is no part of it, and `atPlace` puts that behind. -/
def Error.message : Error → String
  | .endInValue => "EOF while parsing a value"
  | .endInObject => "EOF while parsing an object"
  | .endInList => "EOF while parsing a list"
  | .endInText => "EOF while parsing a string"
  | .expectedValue => "expected value"
  | .expectedWord => "expected ident"
  | .expectedKey => "key must be a string"
  | .expectedColon => "expected " ++ inBackticks ":"
  | .expectedObjectEnd => "expected " ++ inBackticks "," ++ " or " ++ inBackticks "\x7d"
  | .expectedListEnd => "expected " ++ inBackticks "," ++ " or " ++ inBackticks "]"
  | .trailingComma => "trailing comma"
  | .trailingCharacters => "trailing characters"
  | .invalidNumber => "invalid number"
  | .numberOutOfRange => "number out of range"
  | .invalidEscape => "invalid escape"
  | .controlCharacter => "control character (\\u0000-\\u001F) found while parsing a string"
  | .loneSurrogate => "lone leading surrogate in hex escape"
  | .unfinishedSurrogate => "unexpected end of hex escape"
  | .wrongType found wanted => "invalid type: " ++ found.describe ++ ", expected " ++ wanted
  | .wrongValue found wanted => "invalid value: " ++ found.describe ++ ", expected " ++ wanted
  | .wrongLength length wanted =>
    "invalid length " ++ toString length ++ ", expected " ++ wanted
  | .missingField name => "missing field " ++ inBackticks name
  | .duplicateField name => "duplicate field " ++ inBackticks name
  | .unknownField name known =>
    "unknown field " ++ inBackticks name ++ ", expected one of " ++
      String.intercalate ", " (known.map inBackticks)

/-- A place in a text. -/
structure Place where
  line : Nat
  column : Nat
  deriving DecidableEq, Repr

/-- The message of an error with the place where it was met, if this is known. -/
def atPlace (message : String) : Option Place → String
  | none => message
  | some place =>
    message ++ " at line " ++ toString place.line ++ " column " ++ toString place.column

end Quarry.Json
