import DebugShell.Text.Blank
import DebugShell.Terminal.Style

/-!
# What the operator is shown

A message has a severity and a text of one or more lines. Everything that the program tells the
operator is a list of messages, in the order they are told. A transcript keeps them line by line,
so that single lines can be looked for; a terminal shows each message in the colour of its severity.
-/

namespace DebugShell

/-- How serious a message is. -/
inductive Severity where
  /-- The regular output of a command. -/
  | plain
  /-- Information beside the regular output. -/
  | info
  /-- A warning. -/
  | warn
  /-- The report of a failure. -/
  | error
  deriving DecidableEq, Repr

/-- A message to the operator. -/
structure Message where
  /-- How serious it is. -/
  severity : Severity
  /-- Its text, of one or more lines. -/
  text : String
  deriving DecidableEq, Repr

namespace Message

/-- Regular output. -/
def plain (text : String) : Message := ⟨.plain, text⟩

/-- Information. -/
def info (text : String) : Message := ⟨.info, text⟩

/-- A warning. -/
def warn (text : String) : Message := ⟨.warn, text⟩

/-- The report of a failure. -/
def error (text : String) : Message := ⟨.error, text⟩

/-- The message cut into messages of one line. An empty message is one empty line. -/
def split (m : Message) : List Message :=
  if m.text = "" then [m] else m.text.textLines.map fun line => ⟨m.severity, line⟩

/-- The message as a terminal shows it, with its line end: regular output is never coloured, the
other severities are cyan, yellow and red. -/
def display (colour : Bool) (m : Message) : String :=
  let shown := match m.severity with
    | .plain => m.text
    | .info => Terminal.paint colour [36] m.text
    | .warn => Terminal.paint colour [33] m.text
    | .error => Terminal.paint colour [31] m.text
  shown ++ "\n"

end Message

namespace Text

/-- Whether `needle` occurs in a text. -/
def occursIn (needle : List Char) : List Char → Bool
  | [] => needle == []
  | c :: rest => needle.isPrefixOf (c :: rest) || occursIn needle rest

end Text

/-- The lines of the messages told so far. -/
structure Transcript where
  /-- The lines, each with the severity of its message. -/
  lines : List Message := []

namespace Transcript

/-- Tell one more message. -/
def emit (t : Transcript) (m : Message) : Transcript :=
  ⟨t.lines ++ m.split⟩

/-- The transcript of a list of messages. -/
def ofMessages (messages : List Message) : Transcript :=
  messages.foldl emit {}

/-- Whether some line contains a text. -/
def contains (t : Transcript) (needle : String) : Bool :=
  t.lines.any fun line => Text.occursIn needle.toList line.text.toList

/-- The lines of one severity. -/
def withSeverity (t : Transcript) (severity : Severity) : List String :=
  (t.lines.filter fun line => line.severity == severity).map (·.text)

/-- All lines as one text. -/
def text (t : Transcript) : String :=
  String.intercalate "\n" (t.lines.map (·.text))

end Transcript

/-- Where to learn more about a failure that was reported and absorbed. -/
def verbosityPointer : Message :=
  .info <| "For more info invoke `set exception-verbose on` and rerun the command\n" ++
    "or debug it by yourself with `set exception-debugger on`"

/-- The request to report a failure that should not happen. -/
def issuePointer (what : String) : Message :=
  .info s!"If you think this is a bug, please report it with the steps that led to: {what}"

end DebugShell
