import DebugShell.Failure
import DebugShell.Text.Numeral

/-!
# Filters of log records

The program keeps a log, and a variable of its environment may say which records are kept: a list of
directives, each a level, or a target with a span in brackets and a level behind an equals sign. A
filter that is not well formed is reported, and the program does not start.
-/

namespace DebugShell.Program.LogFilter

/-- The names of levels. -/
def levelNames : List String := ["error", "warn", "info", "debug", "trace", "off"]

/-- Whether a text is a level: a name in any case, or a number up to five. -/
def isLevel (text : String) : Bool :=
  text = "" || levelNames.contains (lowercase text) ||
    (Numeral.unsigned? 10 6 text.toList).isSome
where
  /-- A text with its ASCII capitals made small. -/
  lowercase (text : String) : String := String.ofList (text.toList.map Char.toLower)

/-- Why a filter is not well formed. -/
inductive Fault where
  /-- A directive is not well formed. -/
  | directive
  /-- What stands behind an equals sign is no level. -/
  | level
  deriving DecidableEq, Repr

/-- The wording of a fault. -/
def Fault.message : Fault → String
  | .directive => "invalid filter directive"
  | .level =>
    "error parsing level filter: expected one of \"off\", \"error\", \"warn\", \"info\", " ++
      "\"debug\", \"trace\", or a number 0-5"

/-- The failure that a fault is reported as. What is wrong with a level is also its cause. -/
def Fault.failure (fault : Fault) : Failure :=
  match fault with
  | .directive => .ofText fault.message
  | .level => (Failure.ofText fault.message).wrap fault.message

/-- What is expected in a directive. -/
inductive Expecting where
  /-- Its start. -/
  | start
  /-- More of a level or a target. -/
  | name
  /-- More of a span. -/
  | span
  /-- More of the fields of a span. -/
  | fields
  /-- The end of a span. -/
  | spanEnd
  /-- An equals sign or the end. -/
  | equals
  deriving DecidableEq, Repr

/-- Whether a level or a target can start with a character. -/
def isNameStart (c : Char) : Bool :=
  c == '-' || c == ':' || c == '_' || c.isAlphanum || 128 ≤ c.toNat

/-- What is wrong with the rest of a directive. -/
def faultFrom : Expecting → List Char → Option Fault
  | .start, [] | .span, [] | .fields, [] | .spanEnd, [] => some .directive
  | .name, [] | .equals, [] => none
  | .start, c :: rest =>
    if c = '[' then faultFrom .span rest
    else if isNameStart c then faultFrom .name rest
    else some .directive
  | .name, c :: rest =>
    if c = '=' then if isLevel (String.ofList rest) then none else some .level
    else if c = '[' then faultFrom .span rest
    else faultFrom .name rest
  | .span, c :: rest =>
    if c = ']' then faultFrom .equals rest
    else if c = '\x7b' then faultFrom .fields rest
    else faultFrom .span rest
  | .fields, c :: rest => if c = '\x7d' then faultFrom .spanEnd rest else faultFrom .fields rest
  | .spanEnd, c :: rest => if c = ']' then faultFrom .equals rest else some .directive
  | .equals, c :: rest =>
    if c = '=' then if isLevel (String.ofList rest) then none else some .level
    else some .directive

/-- The directives of a filter. -/
def directives (filter : String) : List (List Char) :=
  ((filter.toList.splitOn ',').filter fun d => d != [])

/-- What is wrong with a filter. -/
def fault? (filter : String) : Option Fault :=
  (directives filter).findSome? fun d => faultFrom .start (Text.trim d)

end DebugShell.Program.LogFilter
