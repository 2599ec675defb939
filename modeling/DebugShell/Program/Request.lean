import DebugShell.Options.Matching

/-!
# What the command line asks for

The options of the program, and what a command line asks for by them.
-/

namespace DebugShell.Program

/-- What the program is asked to do. -/
structure Request where
  /-- The file that describes the target. -/
  target : Option String := none
  /-- The file with the settings. -/
  config : Option String := none
  /-- The file with the script, or `-` for standard input. -/
  script : Option String := none
  /-- Commands to run after the script. -/
  commands : List String := []
  /-- Go on after a failure. -/
  continueOnError : Bool := false
  /-- Do not echo the lines of the script. -/
  quiet : Bool := false
  deriving DecidableEq, Repr

/-- An option whose value is the path of a file. -/
def pathOption (name valueName help : String) : Options.Arg :=
  { id := name, long := some name, valueName, refusesEmpty := true, help }

/-- The options of the program. -/
def options : Options.Spec where
  name := "pwngate"
  about := "pwngate: command dispatch and heap-strategy selection over a simulated debuggee"
  version := some "0.3.0"
  args :=
    [pathOption "target" "TARGET"
        "JSON description of the target (registers, symbols, session flags)",
     pathOption "config" "CONFIG"
        "JSON settings file (same names as `show` prints, with underscores)",
     { id := "commands", long := some "command", short := some 'x', valueName := "COMMANDS",
       action := .append, help := "Run a command non-interactively (repeatable)" },
     pathOption "script" "SCRIPT" "Run commands from a file (`-` for stdin), one per line",
     { id := "continue_on_error", long := some "continue-on-error", action := .turnOn,
       help := "Keep going after a command raises in verbose mode" },
     { id := "quiet", long := some "quiet", short := some 'q', action := .turnOn,
       help := "Do not echo scripted commands" },
     { id := "verbose", long := some "verbose", short := some 'v', action := .count,
       help := "Increase log verbosity (-v info, -vv debug, -vvv trace). `PWNGATE_LOG` takes " ++
         "precedence" }]

/-- What the words of a command line ask for. -/
def Request.ofWords (words : List String) : Except Options.Error Request := do
  let given ← options.matchWords words
  return {
    target := given.value? "target"
    config := given.value? "config"
    script := given.value? "script"
    commands := given.values "commands"
    continueOnError := given.has "continue_on_error"
    quiet := given.has "quiet" }

/-- The files that a request reads. -/
def Request.files (r : Request) : List String :=
  r.target.toList ++ r.config.toList ++ (r.script.filter (· ≠ "-")).toList

end DebugShell.Program
