/-!
# Faults of JSON texts

Why a text is not the written form of a value of an expected kind, and where that shows. A place is
a number of bytes into the text; what is reported of it is the line and the column, both counted
from the line feeds before it, lines from one and columns in bytes.
-/

namespace DebugShell.Json

/-- What was found in a place where something else was expected. -/
inductive Found where
  /-- No value. -/
  | null
  /-- A Boolean. -/
  | bool (value : Bool)
  /-- An integer. -/
  | integer (value : Int)
  /-- A number that is no integer, in its shortest form. -/
  | decimal (shortest : String)
  /-- A text, in its quoted form. -/
  | string (quoted : String)
  /-- A list. -/
  | list
  /-- An object. -/
  | object
  deriving DecidableEq, Repr

/-- The wording of what was found. -/
def Found.describe : Found → String
  | .null => "null"
  | .bool value => s!"boolean `{value}`"
  | .integer value => s!"integer `{value}`"
  | .decimal shortest => s!"floating point `{shortest}`"
  | .string quoted => s!"string {quoted}"
  | .list => "sequence"
  | .object => "map"

/-- What can be wrong with a text. -/
inductive Reason where
  /-- The text ends inside a list. -/
  | endInList
  /-- The text ends inside an object. -/
  | endInObject
  /-- The text ends inside a quoted text. -/
  | endInString
  /-- The text ends where a value is needed. -/
  | endInValue
  /-- A name is not followed by a colon. -/
  | noColon
  /-- An item is followed neither by a comma nor by the end of the list. -/
  | noListComma
  /-- An entry is followed neither by a comma nor by the end of the object. -/
  | noObjectComma
  /-- A word is misspelt. -/
  | noWord
  /-- No value starts here. -/
  | noValue
  /-- A backslash introduces no escape. -/
  | badEscape
  /-- The number is not well formed. -/
  | badNumber
  /-- The number is too large. -/
  | numberTooLarge
  /-- A control character stands in a quoted text. -/
  | controlCharacter
  /-- An entry does not start with a quoted name. -/
  | nameNotQuoted
  /-- An escape is half of a surrogate pair. -/
  | loneSurrogate
  /-- The second half of a surrogate pair is missing. -/
  | noSecondSurrogate
  /-- A comma has nothing after it. -/
  | trailingComma
  /-- Something stands after the end. -/
  | trailingCharacters
  /-- The value is of another type. -/
  | wrongType (found : Found) (expected : String)
  /-- The value is of the right type and not in its range. -/
  | wrongValue (found : Found) (expected : String)
  /-- A list stands for a record and is too short. -/
  | wrongLength (length : Nat) (expected : String)
  /-- A text is none of the known names. -/
  | unknownName (given : String) (known : List String)
  /-- A record lacks a field. -/
  | missingField (name : String)
  /-- A record has a field twice. -/
  | repeatedField (name : String)
  /-- The value is refused for a reason of its own. -/
  | refused (text : String)
  deriving DecidableEq, Repr

/-- The wording of a list of known names. -/
def oneOf : List String → String
  | [] => "there are no variants"
  | [a] => s!"expected `{a}`"
  | [a, b] => s!"expected `{a}` or `{b}`"
  | names => "expected one of " ++ ", ".intercalate (names.map fun n => s!"`{n}`")

/-- The wording of a reason. -/
def Reason.message : Reason → String
  | .endInList => "EOF while parsing a list"
  | .endInObject => "EOF while parsing an object"
  | .endInString => "EOF while parsing a string"
  | .endInValue => "EOF while parsing a value"
  | .noColon => "expected `:`"
  | .noListComma => "expected `,` or `]`"
  | .noObjectComma => "expected `,` or `\x7d`"
  | .noWord => "expected ident"
  | .noValue => "expected value"
  | .badEscape => "invalid escape"
  | .badNumber => "invalid number"
  | .numberTooLarge => "number out of range"
  | .controlCharacter => "control character (\\u0000-\\u001F) found while parsing a string"
  | .nameNotQuoted => "key must be a string"
  | .loneSurrogate => "lone leading surrogate in hex escape"
  | .noSecondSurrogate => "unexpected end of hex escape"
  | .trailingComma => "trailing comma"
  | .trailingCharacters => "trailing characters"
  | .wrongType found expected => s!"invalid type: {found.describe}, expected {expected}"
  | .wrongValue found expected => s!"invalid value: {found.describe}, expected {expected}"
  | .wrongLength length expected => s!"invalid length {length}, expected {expected}"
  | .unknownName given known => s!"unknown variant `{given}`, {oneOf known}"
  | .missingField name => s!"missing field `{name}`"
  | .repeatedField name => s!"duplicate field `{name}`"
  | .refused text => text

/-- A fault found while a text is read. A fault of a value gets its place when the reading of the
enclosing value ends. -/
structure Fault where
  /-- What is wrong. -/
  reason : Reason
  /-- How many bytes of the text stand before the place where it shows. -/
  place : Option Nat
  deriving DecidableEq, Repr

/-- A fault of a text, with the place that is reported of it. -/
structure Error where
  /-- What is wrong. -/
  reason : Reason
  /-- The line, from one. -/
  line : Nat
  /-- The number of bytes before the place in its line. -/
  column : Nat
  deriving DecidableEq, Repr

/-- The wording of an error. -/
def Error.message (e : Error) : String :=
  s!"{e.reason.message} at line {e.line} column {e.column}"

/-- The line and the column that are `bytes` further into a text than the given ones. -/
def advancePlace (line column bytes : Nat) : List Char → Nat × Nat
  | [] => (line, column + bytes)
  | c :: rest =>
    if bytes < c.utf8Size then (line, column + bytes)
    else if c = '\n' then advancePlace (line + 1) 0 (bytes - c.utf8Size) rest
    else advancePlace line (column + c.utf8Size) (bytes - c.utf8Size) rest

/-- The error that reports a fault of a text. -/
def Fault.toError (text : List Char) (fault : Fault) : Error :=
  let (line, column) := advancePlace 1 0 (fault.place.getD 0) text
  ⟨fault.reason, line, column⟩

end DebugShell.Json
