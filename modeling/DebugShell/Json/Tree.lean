import DebugShell.Json.Decoder
import DebugShell.Text.Blank

/-!
# Reading and writing any JSON value

The value that a text writes, whatever its kind, and the text that writes a value, without spaces.
-/

namespace DebugShell.Json

/-- Named values with one more; a value that the name had before is dropped. -/
def withEntry (entries : List (String × Json)) (entry : String × Json) : List (String × Json) :=
  entries.filter (fun e => e.1 != entry.1) ++ [entry]

/-- Read a number, keeping its literal unless it is an integer. -/
def readNumber : Reader Json := do
  let before ← get
  let negative := before.rest.head? = some '-'
  if negative then advance
  match ← number negative with
  | .integer value => return .integer value
  | .decimal _ =>
    let literal := before.rest.take (before.rest.length - (← get).rest.length)
    return .decimal (String.ofList literal)

/-- Read a value in which lists and objects are nested to a bounded depth. -/
def readTree : Nat → Reader Json
  | 0 => failHere .noValue
  | depth + 1 => do
    match ← Decoder.start with
    | 'n' =>
      advance
      word ['u', 'l', 'l']
      return .null
    | 't' =>
      advance
      word ['r', 'u', 'e']
      return .bool true
    | 'f' =>
      advance
      word ['a', 'l', 's', 'e']
      return .bool false
    | '"' => return .string (← quoted)
    | '[' => return .list (← items (readTree depth))
    | '{' => return .object ((← entries (readTree depth)).foldl withEntry [])
    | c => if c = '-' || isDigit c then readNumber else failNext .noValue

/-- The value that a text writes. -/
def ofText (text : String) : Except Error Json :=
  let any : Decoder Json := ⟨some, readTree (text.length + 1)⟩
  any.ofText text

/-- What stands for a character in a quoted text. -/
def quotedChar (c : Char) : String :=
  if c = '"' then "\\\""
  else if c = '\\' then "\\\\"
  else if c = '\n' then "\\n"
  else if c = '\r' then "\\r"
  else if c = '\t' then "\\t"
  else if c < ' ' then
    "\\u" ++ String.ofList (Text.padLeftWith '0' 4 (Nat.toDigits 16 c.toNat))
  else c.toString

/-- The quoted text that writes a text. -/
def quotedText (text : String) : String :=
  "\"" ++ String.join (text.toList.map quotedChar) ++ "\""

mutual

/-- The text that writes a value. -/
def text : Json → String
  | .null => "null"
  | .bool true => "true"
  | .bool false => "false"
  | .integer value => toString value
  | .decimal literal => literal
  | .string text => quotedText text
  | .list items => "[" ++ ",".intercalate (itemTexts items) ++ "]"
  | .object entries => "\x7b" ++ ",".intercalate (entryTexts entries) ++ "\x7d"

/-- The texts that write the items of a list. -/
def itemTexts : List Json → List String
  | [] => []
  | item :: rest => text item :: itemTexts rest

/-- The texts that write the entries of an object. -/
def entryTexts : List (String × Json) → List String
  | [] => []
  | (name, value) :: rest => (quotedText name ++ ":" ++ text value) :: entryTexts rest

end

end DebugShell.Json
