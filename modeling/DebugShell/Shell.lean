import DebugShell.Dispatcher
import DebugShell.Pattern.Meaning
import DebugShell.Shell.Commands

/-!
# The shell

The shell plays the part of the host: it keeps the history of typed lines, answers commands of its
own (`help`, `set`, `show`, `quit`, `exit`), and hands every other line to the dispatcher. An empty
line at the prompt runs the last typed line again without a new entry of the history. Lines of a
script leave no entries, and those that start with `#` are comments.
-/

namespace DebugShell

/-- The filters of `nextcall`: patterns that occur in a name. -/
def patternFilter : Shell.FilterReader := fun text =>
  match Pattern.ofString text with
  | .ok p => .ok p.occursIn
  | .error fault => .error (fault.report text)

/-- A shell. -/
structure Shell where
  /-- The target that it is a shell for. -/
  target : Target
  /-- What is kept between invocations; commands remember how many call sites were passed. -/
  dispatcher : Dispatcher Nat
  /-- The lines that were typed. -/
  history : History.Entries := []
  /-- The last line that was typed. -/
  lastLine : Option String := none

namespace Shell

/-- What a line asks the shell to do next. -/
inductive Control where
  /-- Go on. -/
  | proceed
  /-- Leave. -/
  | leave
  deriving DecidableEq, Repr

/-- What a line did. -/
structure Reply where
  /-- The shell afterwards. -/
  shell : Shell
  /-- What the body of a command was given, if one was started. -/
  started : Option Invocation := none
  /-- What the operator was told. -/
  output : List Message := []
  /-- What to do next, or the failure that a command handed on. -/
  result : Except Failure Control := .ok .proceed

/-- The shell's own commands. -/
def ownCommands : List String := ["help", "set", "show", "quit", "exit"]

/-- A shell for a target, with the settings it starts with. -/
def start (target : Target) (config : Config) : Except RegistryError Shell :=
  let d := Dispatcher.forHost (target.host []) config 0
  match d.registry.registerAll (commands target patternFilter) with
  | .ok registry => .ok { target, dispatcher := { d with registry } }
  | .error e => .error e

/-- The answers of the target, with the lines typed so far. -/
def host (s : Shell) : Host :=
  s.target.host s.history

/-- The line that lists a command: its names in a column, and what it does. -/
def commandLine {σ : Type} (c : Command σ) : String :=
  let aliases := ", ".intercalate c.aliases
  let names := if c.aliases = [] then c.name else s!"{c.name} ({aliases})"
  s!"  {names.padTo 22} {c.spec.description}"

/-- The list of all commands by category. -/
def overview (s : Shell) : List Message :=
  let sections := s.dispatcher.registry.byCategory.flatMap fun (category, commands) =>
    (category ++ ":") :: commands.map commandLine
  (sections ++ ["Shell: " ++ ", ".intercalate ownCommands]).map .plain

/-- The answer to `help`. -/
def help (s : Shell) (topic : String) : List Message :=
  if topic = "" then s.overview
  else
    match s.dispatcher.registry.find? topic with
    | some c => [.plain c.help.trimBlanksEnd]
    | none => [undefinedCommand topic]

/-- What stands before the first blank of a text, and what stands after it without the blanks
around it. -/
def cutAtBlank (text : String) : String × String :=
  let cs := text.toList
  (String.ofList (Text.firstWord cs), String.ofList (Text.trim (Text.afterFirstWord cs).tail))

/-- The answer to `set`. -/
def set (s : Shell) (argument : String) : Shell × List Message :=
  let (name, value) := cutAtBlank argument
  if name = "" then (s, [.error "Argument required (expression to compute)."])
  else
    match s.dispatcher.setConfig name value with
    | .ok dispatcher => ({ s with dispatcher }, [])
    | .error e => (s, [.error e.message])

/-- The answer to `show`: all settings, or the one that is named. -/
def display (s : Shell) (name : String) : List Message :=
  let settings := s.dispatcher.config.describe.filter fun e => name == "" || name == e.1
  if settings = [] then [.error s!"unknown setting `{name}`"]
  else settings.map fun (setting, value) => .plain s!"{setting}: {value}"

/-- Do what a line says. -/
def execute (s : Shell) (line : String) (interactive : Bool) : Reply :=
  let (name, argument) := cutAtBlank line
  match name with
  | "quit" | "exit" => { shell := s, result := .ok .leave }
  | "help" => { shell := s, output := s.help argument }
  | "set" =>
    let (shell, output) := s.set argument
    { shell, output }
  | "show" => { shell := s, output := s.display argument }
  | _ =>
    let report := s.dispatcher.invoke s.host name argument interactive
    { shell := { s with dispatcher := report.dispatcher }
      started := report.started
      output := report.output
      result := report.answer.map fun _ => .proceed }

/-- The failure of a line for which the history has no number left. -/
def numberOverflow : Failure := .ofText "attempt to add with overflow"

/-- Take a line that was typed. -/
def handleTyped (s : Shell) (text : String) : Reply :=
  let line := text.trimBlanks
  if line = "" then
    match s.lastLine with
    | some last => s.execute last true
    | none => { shell := s }
  else
    match History.record? s.history line with
    | none => { shell := s, result := .error numberOverflow }
    | some history => { s with history, lastLine := some line }.execute line true

/-- Whether a line of a script, without the blanks around it, asks for nothing. -/
def isIdle (line : String) : Bool :=
  line == "" || line.toList.head? == some '#'

/-- Take a line of a script. -/
def handleScripted (s : Shell) (text : String) : Reply :=
  let line := text.trimBlanks
  if isIdle line then { shell := s } else s.execute line false

end Shell

end DebugShell
