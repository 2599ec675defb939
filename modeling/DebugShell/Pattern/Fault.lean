import DebugShell.Text.Blank

/-!
# Faults of patterns

Why a text is no pattern, and the report of it: the pattern with carets under the place, and the
reason. A pattern of several lines is shown with numbered lines between two rulers.
-/

namespace DebugShell.Pattern

/-- A place in a pattern: a line and a column, both counted from one in characters. -/
structure Place where
  /-- The line. -/
  line : Nat := 1
  /-- The column. -/
  column : Nat := 1
  deriving DecidableEq, Repr

/-- The place after a character that stands in this place. -/
def Place.after (p : Place) (c : Char) : Place :=
  if c = '\n' then ⟨p.line + 1, 1⟩ else ⟨p.line, p.column + 1⟩

/-- A part of a pattern, from one place up to another. -/
structure Span where
  /-- Where it starts. -/
  start : Place
  /-- The place after it. -/
  stop : Place
  deriving DecidableEq, Repr

/-- What can be wrong with a pattern. -/
inductive Reason where
  /-- An escape in a class stands for no character and no class. -/
  | classEscape
  /-- A range ends before it starts. -/
  | classRange
  /-- A bound of a range is no character. -/
  | classRangeBound
  /-- A class is not closed. -/
  | classUnclosed
  /-- A number is too large. -/
  | decimalInvalid
  /-- A character's number has no digits. -/
  | hexEmpty
  /-- There is no character of that number. -/
  | hexInvalid
  /-- A character's number has another character in it. -/
  | hexDigit
  /-- The pattern ends inside an escape. -/
  | escapeEnd
  /-- A letter after a backslash has no meaning. -/
  | escapeUnknown
  /-- No flag follows the mark that turns flags off. -/
  | flagNegationDangling
  /-- A flag is given twice. -/
  | flagRepeated
  /-- The mark that turns flags off is given twice. -/
  | flagNegationRepeated
  /-- The pattern ends among flags. -/
  | flagEnd
  /-- There is no such flag. -/
  | flagUnknown
  /-- Two groups have the same name. -/
  | groupNameRepeated
  /-- The name of a group is empty. -/
  | groupNameEmpty
  /-- A character cannot stand in the name of a group. -/
  | groupNameChar
  /-- The pattern ends in the name of a group. -/
  | groupNameEnd
  /-- A group is not closed. -/
  | groupUnclosed
  /-- No group is open that could be closed. -/
  | groupUnopened
  /-- A repetition ends before it starts. -/
  | repetitionRange
  /-- The number of repetitions is missing. -/
  | repetitionEmpty
  /-- A number of repetitions is not closed. -/
  | repetitionUnclosed
  /-- There is nothing to repeat. -/
  | repetitionOfNothing
  /-- The name of a boundary is not closed. -/
  | boundaryUnclosed
  /-- There is no boundary of that name. -/
  | boundaryUnknown
  /-- The pattern ends after a boundary and an opening brace. -/
  | boundaryEnd
  /-- No property is named. -/
  | propertyInvalid
  /-- A group is to be matched again. -/
  | backreference
  /-- Something is to be matched without being part of the match. -/
  | lookAround
  /-- A character beyond ASCII or a property stands where bytes are matched. -/
  | unicodeNotAllowed
  /-- Bytes could be matched that are no text. -/
  | invalidText
  /-- There is no such property. -/
  | propertyUnknown
  /-- No characters have this value of a property. -/
  | propertyValueUnknown
  deriving DecidableEq, Repr

/-- The wording of a reason. -/
def Reason.message : Reason → String
  | .classEscape => "invalid escape sequence found in character class"
  | .classRange => "invalid character class range, the start must be <= the end"
  | .classRangeBound => "invalid range boundary, must be a literal"
  | .classUnclosed => "unclosed character class"
  | .decimalInvalid => "decimal literal invalid"
  | .hexEmpty => "hexadecimal literal empty"
  | .hexInvalid => "hexadecimal literal is not a Unicode scalar value"
  | .hexDigit => "invalid hexadecimal digit"
  | .escapeEnd => "incomplete escape sequence, reached end of pattern prematurely"
  | .escapeUnknown => "unrecognized escape sequence"
  | .flagNegationDangling => "dangling flag negation operator"
  | .flagRepeated => "duplicate flag"
  | .flagNegationRepeated => "flag negation operator repeated"
  | .flagEnd => "expected flag but got end of regex"
  | .flagUnknown => "unrecognized flag"
  | .groupNameRepeated => "duplicate capture group name"
  | .groupNameEmpty => "empty capture group name"
  | .groupNameChar => "invalid capture group character"
  | .groupNameEnd => "unclosed capture group name"
  | .groupUnclosed => "unclosed group"
  | .groupUnopened => "unopened group"
  | .repetitionRange => "invalid repetition count range, the start must be <= the end"
  | .repetitionEmpty => "repetition quantifier expects a valid decimal"
  | .repetitionUnclosed => "unclosed counted repetition"
  | .repetitionOfNothing => "repetition operator missing expression"
  | .boundaryUnclosed =>
    "special word boundary assertion is either unclosed or contains an invalid character"
  | .boundaryUnknown =>
    "unrecognized special word boundary assertion, valid choices are: start, end, start-half or " ++
      "end-half"
  | .boundaryEnd =>
    "found either the beginning of a special word boundary or a bounded repetition on a \\b " ++
      "with an opening brace, but no closing brace"
  | .propertyInvalid => "invalid Unicode character class"
  | .backreference => "backreferences are not supported"
  | .lookAround => "look-around, including look-ahead and look-behind, is not supported"
  | .unicodeNotAllowed => "Unicode not allowed here"
  | .invalidText => "pattern can match invalid UTF-8"
  | .propertyUnknown => "Unicode property not found"
  | .propertyValueUnknown => "Unicode property value not found"

/-- A fault of a pattern. -/
structure Fault where
  /-- What is wrong. -/
  reason : Reason
  /-- The part that is wrong. -/
  span : Span
  /-- An earlier part that it conflicts with. -/
  earlier : Option Span := none
  deriving DecidableEq, Repr

/-- Whether a part lies in one line. -/
def Span.inOneLine (s : Span) : Bool :=
  s.start.line == s.stop.line

/-- The carets under parts of one line, where `column` columns have been written. -/
def carets (column : Nat) : List Span → List Char
  | [] => []
  | s :: rest =>
    let gap := s.start.column - 1 - column
    let width := max 1 (s.stop.column - s.start.column)
    List.replicate gap ' ' ++ List.replicate width '^' ++ carets (column + gap + width) rest

/-- The parts that a fault points at, in the order in which they start. -/
def Fault.spans (f : Fault) : List Span :=
  match f.earlier with
  | none => [f.span]
  | some e =>
    let before := e.start.line < f.span.start.line ||
      (e.start.line == f.span.start.line && e.start.column < f.span.start.column)
    if before then [e, f.span] else [f.span, e]

/-- The report of a fault of a pattern. -/
def Fault.report (pattern : String) (f : Fault) : String :=
  let cs := pattern.toList
  let lines := Text.lines cs
  let count := if cs.getLast? = some '\n' then lines.length + 1 else lines.length
  let width := if count ≤ 1 then 0 else (toString count).length
  let inOneLine := f.spans.filter Span.inOneLine
  let shown := lines.zipIdx.map fun (line, i) =>
    let head := if width = 0 then "    " else
      String.ofList (Text.padLeft width (toString (i + 1)).toList) ++ ": "
    let marks := inOneLine.filter fun s => s.start.line == i + 1
    let margin := List.replicate (if width = 0 then 4 else width + 2) ' '
    head ++ String.ofList line ++ "\n" ++
      (if marks = [] then "" else String.ofList (margin ++ carets 0 marks) ++ "\n")
  let notated := String.join shown
  let reason := "error: " ++ f.reason.message
  if cs.contains '\n' then
    let ruler := String.ofList (List.replicate 79 '~') ++ "\n"
    let notes := (f.spans.filter fun s => !s.inOneLine).map fun s =>
      s!"on line {s.start.line} (column {s.start.column}) through line {s.stop.line} " ++
        s!"(column {s.stop.column - 1})"
    let notes := if notes = [] then "" else "\n".intercalate notes ++ "\n"
    "regex parse error:\n" ++ ruler ++ notated ++ ruler ++ notes ++ reason
  else "regex parse error:\n" ++ notated ++ reason

end DebugShell.Pattern
