import DebugShell.Program.LogFilter
import DebugShell.Program.Request
import DebugShell.Shell
import DebugShell.Target.Stored

/-!
# The program

The program sets up a shell as the command line asks and runs a script in it, or else takes lines
from an operator. What it writes is computed here from the command line, the contents of the files
that are named there, and the lines that are typed; reading and writing are left to the outermost
layer.
-/

namespace DebugShell.Program

/-- What the program writes. -/
structure Written where
  /-- To standard output. -/
  out : String := ""
  /-- To standard error. -/
  err : String := ""
  deriving DecidableEq, Repr

instance : Append Written := ⟨fun a b => ⟨a.out ++ b.out, a.err ++ b.err⟩⟩

/-- What the program finds when it starts. -/
structure Surroundings where
  /-- The words of the command line. -/
  words : List String
  /-- Colours are shown. -/
  colour : Bool := false
  /-- The filter of log records, where one is given. -/
  logFilter : Option String := none
  /-- The text of a file, or why it cannot be read. -/
  fileText : String → Except String String
  /-- The text of standard input, for a script that is read from there. -/
  input : String := ""

/-- How lines are taken from an operator. -/
structure FrontEnd where
  /-- A prompt is shown before each line. -/
  prompts : Bool
  /-- A backspace in a line takes away the character before it. -/
  edits : Bool
  deriving DecidableEq, Repr

/-- How far the program came. -/
inductive Stage where
  /-- It has ended, with a status. -/
  | ended (written : Written) (status : UInt32)
  /-- It is ready to take lines from an operator. -/
  | ready (shell : Shell)

/-- The prompt of the shell. -/
def prompt : String := "pwngate> "

/-- What the operator is told, as it is written. -/
def written (colour : Bool) (messages : List Message) : Written :=
  { out := String.join (messages.map (Message.display colour)) }

/-- The end of the program by a failure. -/
def failed (failure : Failure) : Stage :=
  .ended { err := "Error: " ++ failure.detail ++ "\n" } 1

/-- The end of the program by a command line that was not accepted or that asked for a text. -/
def refused (colour : Bool) (e : Options.Error) : Stage :=
  let text := Terminal.render colour (e.message options)
  match e with
  | .helpRequested | .versionRequested => .ended { out := text } 0
  | _ => .ended { err := text } 2

/-- The report of a failure that does not end the program: in detail where failures are to be
debugged. -/
def failureReport (colour : Bool) (shell : Shell) (failure : Failure) : Written :=
  let text :=
    if shell.dispatcher.config.exceptionDebugger then failure.detail else failure.message
  { err := Terminal.paint colour [1, 31] "error:" ++ " " ++ text ++ "\n" }

/-! ### Scripts -/

/-- What running a script did. -/
structure ScriptRun where
  /-- The shell afterwards. -/
  shell : Shell
  /-- What was written. -/
  written : Written := {}
  /-- The failure that ended it. -/
  failure : Option Failure := none

/-- Run the lines of a script, of which the first has a number. -/
def runScript (colour : Bool) (request : Request) (shell : Shell) (number : Nat) :
    List String → ScriptRun
  | [] => { shell }
  | text :: rest =>
    let line := text.trimBlanks
    if Shell.isIdle line then runScript colour request shell (number + 1) rest
    else
      let echo : Written := { out := if request.quiet then "" else prompt ++ line ++ "\n" }
      let reply := shell.handleScripted line
      let soFar := echo ++ written colour reply.output
      match reply.result with
      | .ok .leave => { shell := reply.shell, written := soFar }
      | .ok .proceed =>
        let further := runScript colour request reply.shell (number + 1) rest
        { further with written := soFar ++ further.written }
      | .error failure =>
        if request.continueOnError then
          let further := runScript colour request reply.shell (number + 1) rest
          { further with
            written := soFar ++ failureReport colour reply.shell failure ++ further.written }
        else
          { shell := reply.shell
            written := soFar
            failure := some (.ofText s!"script failed at line {number}: {failure.message}") }

/-! ### Starting -/

/-- The target that a file describes, or the one of which nothing is known. -/
def loadTarget (s : Surroundings) : Option String → Except Failure Target
  | none => .ok {}
  | some path =>
    match s.fileText path with
    | .error reason => .error (.ofText s!"failed to read target {path}: {reason}")
    | .ok text =>
      match Target.decoder.ofText text with
      | .ok target => .ok target
      | .error e => .error (.ofText s!"invalid target {path}: {e.message}")

/-- The settings of a file, or the default ones. -/
def loadConfig (s : Surroundings) : Option String → Except Failure Config
  | none => .ok {}
  | some path =>
    let failure (reason : String) : Failure := .ofText s!"failed to read config {path}: {reason}"
    match s.fileText path with
    | .error reason => .error (failure reason)
    | .ok text => (Config.decoder.ofText text).mapError fun e => failure e.message

/-- The lines of a script. -/
def loadScript (s : Surroundings) : Option String → Except Failure (List String)
  | none => .ok []
  | some "-" => .ok s.input.textLines
  | some path =>
    match s.fileText path with
    | .error reason => .error (.ofText s!"failed to read script {path}: {reason}")
    | .ok text => .ok text.textLines

/-- The shell that a request asks for, and the lines of the script that it is to run. -/
def setUp (s : Surroundings) (request : Request) : Except Failure (Shell × List String) := do
  match s.logFilter.bind LogFilter.fault? with
  | some fault => throw fault.failure
  | none =>
    let target ← loadTarget s request.target
    let config ← loadConfig s request.config
    match Shell.start target config with
    | .error e => throw ((Failure.ofText e.message).wrap "failed to set up the shell")
    | .ok shell => return (shell, (← loadScript s request.script) ++ request.commands)

/-- Start the program, and run its script if there is one. -/
def start (s : Surroundings) : Stage :=
  match Request.ofWords s.words with
  | .error e => refused s.colour e
  | .ok request =>
    match setUp s request with
    | .error failure => failed failure
    | .ok (shell, lines) =>
      if request.script = none ∧ request.commands = [] then .ready shell
      else
        let run := runScript s.colour request shell 1 lines
        match run.failure with
        | none => .ended run.written 0
        | some failure =>
          .ended (run.written ++ { err := "Error: " ++ failure.detail ++ "\n" }) 1

/-! ### Taking lines from an operator -/

/-- What is shown to an operator at first. -/
def banner (colour : Bool) : Written :=
  { out := Terminal.paint colour [1, 32] "pwngate" ++
      "\nType `help` for commands. Type `quit` to exit.\n\n" }

/-- What is shown before a line is read. -/
def shownPrompt (frontEnd : FrontEnd) (colour : Bool) : Written :=
  { out := if frontEnd.prompts then Terminal.paint colour [1, 36] prompt else "" }

/-- A line with each backspace taking away the character before it; `read` are the characters so
far, the last one first. -/
def edited (read : List Char) : List Char → List Char
  | [] => read.reverse
  | c :: rest => if c = '\x08' then edited read.tail rest else edited (c :: read) rest

/-- Take one line from an operator. -/
def takeLine (frontEnd : FrontEnd) (colour : Bool) (shell : Shell) (line : String) :
    Shell × Written × Shell.Control :=
  let line := if frontEnd.edits then String.ofList (edited [] line.toList) else line
  let reply := shell.handleTyped line
  let output := written colour reply.output
  match reply.result with
  | .ok control => (reply.shell, output, control)
  | .error failure =>
    (reply.shell, output ++ failureReport colour reply.shell failure, .proceed)

/-- Take lines from an operator up to the one that leaves or to the last. -/
def takeLines (frontEnd : FrontEnd) (colour : Bool) (shell : Shell) : List String → Written
  | [] => shownPrompt frontEnd colour
  | line :: rest =>
    let (shell, output, control) := takeLine frontEnd colour shell line
    let soFar := shownPrompt frontEnd colour ++ output
    match control with
    | .proceed => soFar ++ takeLines frontEnd colour shell rest
    | .leave => soFar

/-- The whole run of the program: what it writes, and its status. Lines are taken from standard
input. -/
def run (s : Surroundings) (frontEnd : FrontEnd) : Written × UInt32 :=
  match start s with
  | .ended written status => (written, status)
  | .ready shell =>
    (banner s.colour ++ takeLines frontEnd s.colour shell s.input.textLines, 0)

end DebugShell.Program
